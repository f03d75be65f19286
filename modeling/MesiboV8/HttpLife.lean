/-
  MesiboV8.HttpLife — the life of an `http_context_t`, from the request that makes it to
  its `js_mesibo_http_onclose`.

  `Phase` is what a context's callbacks come to as seen from their arguments alone: open
  with `n` bytes, refused (a callback returned FAIL and the context is still there),
  released (`ondata` freed it) or crashed (a `memcpy` out of bounds). The code refines it
  (`hostCallbacks_refine`). Then `onclose` with FAIL frees nothing and any other result
  reads and frees the context, so a context is freed exactly once when the one that
  remains to be done is done (`freed_once_iff`).
-/

import MesiboV8.HttpBuffer
import MesiboV8.HttpClose

namespace MesiboV8

open Lib.Bytes Lib.Utf Lib.Effects Act

variable {P : Platform}

/-! ## Callbacks -/

inductive HostEvent where
  | ondata (state progress : Int64) (buffer : Option Mem) (size : Int64)
  | onstatus (status : Int64) (responseType : Option CString)
  /-- Whatever else the module does in between. -/
  | elsewhere (after : World → World)

def hostEvent (P : Platform) (a : Addr) : HostEvent → Act Int64
  | .ondata state progress buffer size => jsMesiboHttpOndata P a state progress buffer size
  | .onstatus status responseType => jsMesiboHttpOnstatus P a status responseType
  | .elsewhere after => do
    modify after
    return P.MESIBO_RESULT_OK

/-- The callbacks the host makes: none after one that returned FAIL. -/
def hostCallbacks (P : Platform) (a : Addr) : List HostEvent → Act Unit
  | [] => pure ()
  | e :: es => do
    let rv ← hostEvent P a e
    if rv = P.MESIBO_RESULT_FAIL then return () else hostCallbacks P a es

/-- What happens elsewhere leaves this context alone. -/
def HostEvent.LeavesAlone (a : Addr) : HostEvent → Prop
  | .elsewhere after => ∀ w, a < w.nextAddr → a < (after w).nextAddr ∧ (after w).https a = w.https a ∧
      (after w).destroyed.count a = w.destroyed.count a
  | _ => True

/-! ## Phases -/

inductive Phase where
  | opened (n : Nat)
  | refused
  | released
  | crashed
  deriving DecidableEq, Repr

/-- A chunk of `size` bytes, with `n` in the buffer. -/
def Phase.body (n : Nat) (size : Int) : Phase :=
  if size < 0 ∨ 2 ^ 63 ≤ n + size then .crashed
  else if n + size ≤ HTTP_BUFFER_LEN then .opened (n + size.toNat)
  else .refused

def Phase.next (P : Platform) (n : Nat) : HostEvent → Phase
  | .ondata state progress buffer size =>
    if progress < 0 then .released
    else if P.MODULE_HTTP_STATE_RESPBODY ≠ state ∨ buffer.isNone then .opened n
    else .body n size.toInt
  | .onstatus _ none => .refused
  | .onstatus _ (some responseType) =>
    if HTTP_RESPONSE_TYPE_LEN + HTTP_BUFFER_LEN < responseType.bytes.length then .crashed else .opened n
  | .elsewhere _ => .opened n

def phase (P : Platform) (n : Nat) : List HostEvent → Phase
  | [] => .opened n
  | e :: es =>
    match Phase.next P n e with
    | .opened m => phase P m es
    | p => p

/-- `a` is a context with `n` bytes in its buffer, that was freed `c` times before. -/
structure HttpOpen (a : Addr) (mod : ModId) (o : ObjId) (n c : Nat) (w : World) : Prop where
  addr : a < w.nextAddr
  context : ∃ b, w.https a = some b ∧ b.Armed mod o ∧ b.datalen.toInt = n
  fits : n ≤ HTTP_BUFFER_LEN
  freed : w.destroyed.count a = c

/-- A callback does what its phase says. -/
def Phase.Result (P : Platform) (a : Addr) (mod : ModId) (o : ObjId) (n c : Nat) (x : Except Fault (Int64 × World)) :
    Phase → Prop
  | .opened m => ∃ rv w, x = .ok (rv, w) ∧ rv ≠ P.MESIBO_RESULT_FAIL ∧ HttpOpen a mod o m c w
  | .refused => ∃ w, x = .ok (P.MESIBO_RESULT_FAIL, w) ∧ HttpOpen a mod o n c w
  | .released => ∃ w, x = .ok (P.MESIBO_RESULT_FAIL, w) ∧ w.https a = none ∧ w.destroyed.count a = c + 1
  | .crashed => ∃ f, x = .error f

section Step

variable {a : Addr} {mod : ModId} {o : ObjId} {n c : Nat} {w : World}

theorem HttpOpen.put (h : HttpOpen a mod o n c w) {b' : HttpContext} {m : Nat} (ha : b'.Armed mod o)
    (hd : b'.datalen.toInt = m) (hm : m ≤ HTTP_BUFFER_LEN) :
    HttpOpen a mod o m c { w with https := Function.update w.https a (some b') } :=
  ⟨h.addr, ⟨b', Function.update_self _ _ _, ha, hd⟩, hm, h.freed⟩

theorem ondata_phase (h : HttpOpen a mod o n c w) (state progress : Int64) (buffer : Option Mem) (size : Int64) :
    (Phase.next P n (.ondata state progress buffer size)).Result P a mod o n c
      (jsMesiboHttpOndata P a state progress buffer size w) := by
  obtain ⟨b, hb, ha, hd⟩ := h.context
  have hok := P.ok_ne_fail
  rw [ondata_eq hb, Phase.next]
  by_cases hp : progress < 0
  · rw [if_pos hp, if_pos hp]
    exact ⟨_, rfl, Function.update_self _ _ _, by simp [h.freed]⟩
  · rw [if_neg hp, if_neg hp]
    by_cases hs : P.MODULE_HTTP_STATE_RESPBODY ≠ state
    · rw [if_pos hs, if_pos (.inl hs)]
      exact ⟨_, w, rfl, hok, h⟩
    · rw [if_neg hs]
      cases buffer with
      | none =>
        rw [if_pos (.inr rfl)]
        exact ⟨_, _, rfl, hok, h.put ha hd h.fits⟩
      | some src =>
        rw [if_neg (by simp [hs])]
        unfold Phase.body
        by_cases hc : size.toInt < 0 ∨ 2 ^ 63 ≤ n + size.toInt
        · rw [if_pos hc, storeBody_overruns hd h.fits hc]
          exact ⟨_, rfl⟩
        · rw [if_neg hc]
          by_cases hl : n + size.toInt ≤ HTTP_BUFFER_LEN
          · rw [if_pos hl]
            obtain ⟨d, hd', he⟩ := storeBody_fits src hd (by omega) hl
            rw [he]
            exact ⟨_, _, rfl, hok, h.put ⟨ha.mod, ha.httpObj, ha.httpCb⟩ (by rw [hd']; omega) (by omega)⟩
          · rw [if_neg hl, storeBody_refused hd h.fits (by omega) (by omega)]
            exact ⟨w, rfl, h⟩

theorem onstatus_phase (h : HttpOpen a mod o n c w) (status : Int64) (responseType : Option CString) :
    (Phase.next P n (.onstatus status responseType)).Result P a mod o n c
      (jsMesiboHttpOnstatus P a status responseType w) := by
  obtain ⟨b, hb, ha, hd⟩ := h.context
  cases responseType with
  | none => exact ⟨w, rfl, h⟩
  | some t =>
    rw [onstatus_eq hb ha.mod, Phase.next]
    unfold storeStatus
    by_cases hl : HTTP_RESPONSE_TYPE_LEN + HTTP_BUFFER_LEN < t.bytes.length
    · rw [if_pos hl, if_pos hl]
      exact ⟨_, rfl⟩
    · rw [if_neg hl, if_neg hl]
      exact ⟨_, _, rfl, P.ok_ne_fail, h.put ⟨ha.mod, ha.httpObj, ha.httpCb⟩ hd h.fits⟩

theorem hostEvent_phase (h : HttpOpen a mod o n c w) {e : HostEvent} (he : e.LeavesAlone a) :
    (Phase.next P n e).Result P a mod o n c (hostEvent P a e w) := by
  cases e with
  | ondata state progress buffer size => exact ondata_phase h state progress buffer size
  | onstatus status responseType => exact onstatus_phase h status responseType
  | elsewhere after =>
    obtain ⟨hlt, hs, hc⟩ := he w h.addr
    exact ⟨_, _, rfl, P.ok_ne_fail, hlt, by rw [hs]; exact h.context, h.fits, hc.trans h.freed⟩

end Step

/-- What a context's callbacks have come to. -/
def Phase.Final (a : Addr) (mod : ModId) (o : ObjId) (c : Nat) (x : Except Fault (Unit × World)) : Phase → Prop
  | .opened _ | .refused => ∃ w n, x = .ok ((), w) ∧ HttpOpen a mod o n c w
  | .released => ∃ w, x = .ok ((), w) ∧ w.https a = none ∧ w.destroyed.count a = c + 1
  | .crashed => ∃ f, x = .error f

/-- The code refines the phases. -/
theorem hostCallbacks_refine {a : Addr} {mod : ModId} {o : ObjId} {n c : Nat} {w : World} (h : HttpOpen a mod o n c w)
    {es : List HostEvent} (hes : ∀ e ∈ es, e.LeavesAlone a) :
    (phase P n es).Final a mod o c (hostCallbacks P a es w) := by
  induction es generalizing n w with
  | nil => exact ⟨w, n, rfl, h⟩
  | cons e es ih =>
    have hstep := hostEvent_phase (P := P) h (hes e (by simp))
    rw [phase, hostCallbacks]
    cases hp : Phase.next P n e with
    | opened m =>
      rw [hp] at hstep
      obtain ⟨rv, w', hw, hrv, h'⟩ := hstep
      rw [bind_eq hw, if_neg hrv]
      exact ih h' fun x hx => hes x (by simp [hx])
    | refused =>
      rw [hp] at hstep
      obtain ⟨w', hw, h'⟩ := hstep
      rw [bind_eq hw, if_pos rfl]
      exact ⟨w', n, rfl, h'⟩
    | released =>
      rw [hp] at hstep
      obtain ⟨w', hw, hnone, hc⟩ := hstep
      rw [bind_eq hw, if_pos rfl]
      exact ⟨w', rfl, hnone, hc⟩
    | crashed =>
      rw [hp] at hstep
      obtain ⟨f, hw⟩ := hstep
      rw [bind_error hw]
      exact ⟨f, rfl⟩

/-! ## Freed once -/

/-- The callbacks `es` on the context at `a`, and then its `onclose` in the system `s`, return
    and free it once. -/
def FreedOnce (P : Platform) (a : Addr) (w : World) (es : List HostEvent) (result : Int64) (fs : ScriptFile)
    (s : System) : Prop :=
  ∃ w' s', hostCallbacks P a es w = .ok ((), w') ∧
    jsMesiboHttpOnclose P a result fs { s with world := w' } = .ok s' ∧
    s'.world.destroyed.count a = w.destroyed.count a + 1

/-- Of the two ways to free a context exactly one is taken. -/
def FreesOnce (P : Platform) (mod : ModId) (es : List HostEvent) (result : Int64) (fs : ScriptFile) (s : System) : Prop :=
  match phase P 0 es with
  | .opened _ | .refused => Closes P mod result fs s
  | .released => result = P.MESIBO_RESULT_FAIL
  | .crashed => False

theorem closes_world {mod : ModId} {result : Int64} {fs : ScriptFile} {s : System} (w : World) :
    Closes P mod result fs { s with world := w } ↔ Closes P mod result fs s := Iff.rfl

theorem freedOnce_open (hP : P.Sandboxed) {a : Addr} {mod : ModId} {o : ObjId} {n c : Nat} {s : System} {result : Int64}
    {fs : ScriptFile} (h : HttpOpen a mod o n c s.world) :
    (∃ s', jsMesiboHttpOnclose P a result fs s = .ok s' ∧ s'.world.destroyed.count a = c + 1) ↔
      Closes P mod result fs s := by
  obtain ⟨b, hb, ha, -⟩ := h.context
  constructor
  · intro hx
    obtain ⟨s', hs, hc⟩ := hx
    by_contra hn
    have := onclose_stays hP h.addr hb ha hn hs
    subst this
    rw [h.freed] at hc
    omega
  · intro hc
    obtain ⟨mp, w, u, hext, hd, hs⟩ := onclose_closes hP h.addr hb ha hc
    refine ⟨_, hs, ?_⟩
    show u.destroyed.count a = c + 1
    rw [hd.destroyed, hext.destroyed, List.count_append, h.freed]
    simp

theorem httpCallback_open {info : CallInfo} {w₀ w : World} {r : JsVal} {mod : ModId} {cb d : JsVal}
    (hs : HttpSends info w₀ mod cb d) (h : httpCallback P info w₀ = .ok (r, w)) :
    HttpOpen w₀.nextAddr mod info.this 0 (w.destroyed.count w₀.nextAddr) w :=
  have hc := httpCallback_context hs h
  ⟨hc.1, ⟨_, hc.2, freshContext_armed hs, rfl⟩, Nat.zero_le _, rfl⟩

/-- A context made by a request is freed exactly once, and not touched afterwards, exactly
    when the way to free it that its callbacks leave is taken. -/
theorem freed_once_iff (hP : P.Sandboxed) {info : CallInfo} {w₀ w : World} {r : JsVal} {mod : ModId} {cb d : JsVal}
    (hs : HttpSends info w₀ mod cb d) (h : httpCallback P info w₀ = .ok (r, w)) {es : List HostEvent}
    (hes : ∀ e ∈ es, e.LeavesAlone w₀.nextAddr) (result : Int64) (fs : ScriptFile) (s : System) :
    FreedOnce P w₀.nextAddr w es result fs s ↔ FreesOnce P mod es result fs s := by
  have hfinal := hostCallbacks_refine (P := P) (httpCallback_open hs h) hes
  have hopen : (∃ w' n, hostCallbacks P w₀.nextAddr es w = .ok ((), w') ∧
      HttpOpen w₀.nextAddr mod info.this n (w.destroyed.count w₀.nextAddr) w') →
      (FreedOnce P w₀.nextAddr w es result fs s ↔ Closes P mod result fs s) := by
    intro hx
    obtain ⟨w', n, hw, ho⟩ := hx
    rw [← closes_world w', ← freedOnce_open (s := { s with world := w' }) hP ho]
    constructor
    · intro hx
      obtain ⟨w'', s', hw'', hs', hc⟩ := hx
      cases hw.symm.trans hw''
      exact ⟨s', hs', hc⟩
    · intro hx
      obtain ⟨s', hs', hc⟩ := hx
      exact ⟨w', s', hw, hs', hc⟩
  unfold FreesOnce
  cases hp : phase P 0 es with
  | opened n => rw [hp] at hfinal; exact hopen hfinal
  | refused => rw [hp] at hfinal; exact hopen hfinal
  | released =>
    rw [hp] at hfinal
    obtain ⟨w', hw, hnone, hc⟩ := hfinal
    constructor
    · intro hx
      obtain ⟨w'', s', hw'', hs', -⟩ := hx
      cases hw.symm.trans hw''
      by_contra hr
      rw [onclose_gone (s := { s with world := w' }) hr hnone] at hs'
      cases hs'
    · intro e
      subst e
      exact ⟨w', _, hw, onclose_fail _ _ _, hc⟩
  | crashed =>
    rw [hp] at hfinal
    obtain ⟨f, hf⟩ := hfinal
    refine ⟨?_, False.elim⟩
    intro hx
    obtain ⟨w', s', hw, -⟩ := hx
    cases hf.symm.trans hw

/-- Every object is a request to be sent, with a function of the script to call back. -/
def World.request : World :=
  { World.empty with heap := fun _ k => .data (if k = HTTP_ONDATA then .func 1 else .str []), nextObj := 1 }

/-- `send` called on one of them. -/
def CallInfo.request : CallInfo := ⟨0, .external (some 0), [], false, 0⟩

theorem request_sends : HttpSends .request .request 0 (.func 1) (.str []) := ⟨nofun, rfl, rfl, rfl, rfl⟩

/-- A system whose modules all have the sample processor. -/
def System.sample (w : World) : System := ⟨w, fun _ => some ⟨some .sample⟩, 1, false⟩

theorem freed_once_iff_request : ∃ r w, httpCallback .reference .request .request = .ok (r, w) ∧
    (FreedOnce .reference 0 w [.onstatus 200 none, .ondata 4 (-1) none 0] 0 ⟨some 1, true, some []⟩ (.sample w) ↔
      FreesOnce .reference 0 [.onstatus 200 none, .ondata 4 (-1) none 0] 0 ⟨some 1, true, some []⟩ (.sample w)) := by
  obtain ⟨r, w, h⟩ : ∃ r w, httpCallback .reference .request .request = .ok (r, w) := ⟨_, _, rfl⟩
  refine ⟨r, w, h, freed_once_iff Platform.reference_sandboxed request_sends h (fun e he => ?_) _ _ _⟩
  simp only [List.mem_cons, List.not_mem_nil, or_false] at he
  rcases he with rfl | rfl <;> trivial

/-- A request that fails at once is never freed. -/
theorem failed_request_leaks : ¬∀ r w, httpCallback .reference .request .request = .ok (r, w) →
    FreedOnce .reference 0 w [] Platform.reference.MESIBO_RESULT_FAIL ⟨some 1, true, some []⟩ (.sample w) := by
  intro h
  obtain ⟨w', s', hw, hs, hc⟩ := h _ _ rfl
  cases hw
  rw [onclose_fail] at hs
  cases hs
  simp at hc

end MesiboV8
