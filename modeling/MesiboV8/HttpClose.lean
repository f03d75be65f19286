/-
  MesiboV8.HttpClose — what `js_mesibo_http_onclose` does.

  - `contextReady_iff`: when its `GetContext` comes back with a context.
  - `deliverResponse_ok`: then the response is stored on the request's object, its callback
    entered once and the context freed.
  - `onclose_closes`, `onclose_stays`: when `onclose` does that, and what it does otherwise.
-/

import MesiboV8.HttpBuffer
import MesiboV8.Reload
import MesiboV8.Scripts

namespace MesiboV8

open Lib.Bytes Lib.Utf Lib.Effects Act

variable {P : Platform}

/-! ## `GetContext` -/

/-- The reload of a `GetContext` finds a file and makes a context. -/
def Rebuilds (P : Platform) (p : Processor) (fs : ScriptFile) : Bool :=
  isFileChange P p fs && p.script_.isSome && fs.access

/-- There is a context to run callbacks in: a new one, of a file that can be read, or the old one. -/
def ContextReady (P : Platform) (p : Processor) (fs : ScriptFile) : Prop :=
  if Rebuilds P p fs then (readFile P fs).isSome else p.context_.isSome

/-- A processor with a context is ready on a file that can be read if it is there. -/
theorem contextReady_of_readable {p : Processor} {fs : ScriptFile} (hc : p.context_.isSome)
    (hr : fs.access = true → (readFile P fs).isSome) : ContextReady P p fs := by
  unfold ContextReady
  split
  · rename_i hb
    simp only [Rebuilds, Bool.and_eq_true] at hb
    exact hr hb.2
  · exact hc

theorem initialize_returns {p : Processor} {fs : ScriptFile} (w : World)
    (h : p.script_.isSome → fs.access → (readFile P fs).isSome) :
    ∃ rv p' w', processorInitialize P p fs w = .ok (rv, p', w') := by
  unfold processorInitialize
  dsimp only
  split
  · exact ⟨_, _, _, rfl⟩
  · rename_i hs
    split
    · exact ⟨_, _, _, rfl⟩
    · rename_i ha
      split
      · rename_i hr
        have := h (by simpa [Option.isSome_iff_ne_none] using hs) (by simpa using ha)
        rw [hr] at this
        cases this
      · split <;> exact ⟨_, _, _, rfl⟩

theorem rebuilds_missing {p : Processor} {fs : ScriptFile} (h : p.script_ = none ∨ fs.access = false) :
    Rebuilds P p fs = false := by
  rcases h with h | h <;> simp [Rebuilds, h]

theorem contextReady_iff (p : Processor) (fs : ScriptFile) (w : World) :
    (∃ st p' w', getContext P p fs w = .ok (st, p', w') ∧ p'.context_.isSome) ↔ ContextReady P p fs := by
  unfold ContextReady
  constructor
  · intro hx
    obtain ⟨st, p', w', hg, hc⟩ := hx
    rcases getContext_cases hg with ⟨hn, -, rfl, -⟩ | ⟨rv, hn, -, hi⟩
    · rw [noteChange_context] at hc
      simpa [Rebuilds, hn] using hc
    · rcases initialize_cases hi with ⟨hm, -, rfl⟩ | ⟨hs, ha, -, source, hr, -⟩
      · rw [noteChange_script] at hm
        rw [noteChange_context] at hc
        simpa [rebuilds_missing hm] using hc
      · rw [noteChange_script] at hs
        simp [Rebuilds, hn, hs, ha, hr]
  · intro h
    by_cases hn : isFileChange P p fs
    · obtain ⟨rv, p', w', hi⟩ := initialize_returns (P := P) (p := noteChange P p fs) w fun hs (ha : fs.access) => by
        rw [noteChange_script] at hs
        rwa [if_pos (by simp [Rebuilds, hn, hs, ha])] at h
      refine ⟨some rv, p', w', by rw [getContext, if_pos hn, hi], ?_⟩
      rcases initialize_cases hi with ⟨hm, -, rfl⟩ | ⟨-, -, -, source, -, hb⟩
      · rw [noteChange_script] at hm
        rw [noteChange_context]
        simpa [rebuilds_missing hm] using h
      · exact hb.context_isSome
    · have hn : isFileChange P p fs = false := by simpa using hn
      refine ⟨none, noteChange P p fs, w, by rw [getContext, hn]; rfl, ?_⟩
      rw [noteChange_context]
      simpa [Rebuilds, hn] using h

/-! ## Delivery -/

/-- What is stored on the object of a request. -/
def storeResponse (o : ObjId) (response responseType : JsString) (status : Int64) (w : World) : World :=
  let w := (w.set o HTTP_RESPONSE (.str response)).2
  let w := (w.set o HTTP_RESPONSE_TYPE (.str responseType)).2
  (w.set o HTTP_STATUS (.ofUint32 status.toUInt64.toUInt32)).2

section Stored

variable (o : ObjId) (response responseType : JsString) (status : Int64) (w : World)

end Stored

theorem executeJsFunctionObj_extends (hP : P.Sandboxed) (context : CtxId) (jsFun : JsVal) (args : List JsVal)
    (w : World) : World.Extends { w with invoked := w.invoked ++ [⟨jsFun, args, w.heap⟩] }
      (executeJsFunctionObj P context jsFun args w).2 := by
  rw [executeJsFunctionObj_world]
  exact scriptRun_extends (hP.call _ _ _ _)

theorem hostString_eq {s : CString} {x : JsString} (h : P.newFromUtf8 s.bytes = some x) (o : ObjId) (k : String)
    (w : World) : ∃ rv, fromHost (ctoJString P o k (some s)) w = .ok (rv, (w.set o k (.str x)).2) := by
  obtain ⟨rv, he⟩ := fromHost_setParam (P := P) o k (.str x) w
  exact ⟨rv, by rw [ctoJString, h]; exact he⟩

theorem intBytes_length (x : Int32) : (intBytes x).length = 4 := by simp [intBytes]

theorem bufferString_short (b : HttpContext) : b.bufferString.bytes.length ≤ P.kMaxLength := by
  have hk := P.kMaxLength_ge
  have hl : HTTP_BUFFER_LEN = 65536 := rfl
  have h := cstr_length_le (b.buffer.bytes ++ intBytes b.datalen)
  rw [List.length_append, Buf.bytes_length, intBytes_length] at h
  rw [HttpContext.bufferString, CString.ofBytes_bytes]
  omega

theorem responseTypeString_short (b : HttpContext) : b.responseTypeString.bytes.length ≤ P.kMaxLength := by
  have hk := P.kMaxLength_ge
  have hl : HTTP_BUFFER_LEN = 65536 := rfl
  have ht : HTTP_RESPONSE_TYPE_LEN = 1024 := rfl
  have h := cstr_length_le (b.responseType.bytes ++ b.buffer.bytes ++ intBytes b.datalen)
  rw [List.length_append, List.length_append, Buf.bytes_length, Buf.bytes_length, intBytes_length] at h
  rw [HttpContext.responseTypeString, CString.ofBytes_bytes]
  omega

/-- What a delivery in `w` leaves: the callback was entered on the stored response, and the
    context is gone. -/
structure Delivered (P : Platform) (a : Addr) (b : HttpContext) (o : ObjId) (w u : World) : Prop where
  invoked : ∃ response responseType, P.newFromUtf8 b.bufferString.bytes = some response ∧
    P.newFromUtf8 b.responseTypeString.bytes = some responseType ∧
    u.invoked = w.invoked ++ [⟨b.httpCb, [.object o], (storeResponse o response responseType b.status w).heap⟩]
  destroyed : u.destroyed = w.destroyed ++ [a]
  gone : u.https a = none
  others : ∀ x, x < w.nextAddr → x ≠ a → u.https x = w.https x
  nextAddr : w.nextAddr ≤ u.nextAddr
  statics : w.statics.Le u.statics

theorem deliverResponse_ok (hP : P.Sandboxed) {a : Addr} {b : HttpContext} {o : ObjId} {w : World} (c : CtxId)
    (ha : a < w.nextAddr) (hb : w.https a = some b) (ho : b.httpObj = some o) (hcb : ¬b.httpCb.isNullOrUndefined) :
    ∃ u, deliverResponse P (some c) a w = .ok ((), u) ∧ Delivered P a b o w u := by
  obtain ⟨response, hr⟩ := Option.isSome_iff_exists.mp (P.newFromUtf8_isSome _ (bufferString_short b))
  obtain ⟨responseType, ht⟩ := Option.isSome_iff_exists.mp (P.newFromUtf8_isSome _ (responseTypeString_short b))
  obtain ⟨rv₁, h₁⟩ := hostString_eq hr o HTTP_RESPONSE w
  obtain ⟨rv₂, h₂⟩ := hostString_eq ht o HTTP_RESPONSE_TYPE (w.set o HTTP_RESPONSE (.str response)).2
  obtain ⟨rv₃, h₃⟩ := fromHost_setParam (P := P) o HTTP_STATUS (.ofUint32 b.status.toUInt64.toUInt32)
    ((w.set o HTTP_RESPONSE (.str response)).2.set o HTTP_RESPONSE_TYPE (.str responseType)).2
  have hext := executeJsFunctionObj_extends hP c b.httpCb [.object o] (storeResponse o response responseType b.status w)
  have heq : deliverResponse P (some c) a w = mesiboJsDestroyHttpContext a
      (executeJsFunctionObj P c b.httpCb [.object o] (storeResponse o response responseType b.status w)).2 := by
    rw [deliverResponse, bind_eq (derefContext_eq hb), ho]
    dsimp only
    rw [if_neg hcb, bind_eq h₁, bind_eq h₂, ctoJUint, bind_eq h₃]
    rfl
  rw [heq, mesiboJsDestroyHttpContext_eq ((hext.https a ha).trans hb)]
  exact ⟨_, rfl, {
    invoked := ⟨response, responseType, hr, ht, hext.invoked⟩
    destroyed := congrArg (· ++ [a]) hext.destroyed
    gone := Function.update_self _ _ _
    others := fun x hx hne => (Function.update_of_ne hne _ _).trans (hext.https x hx)
    nextAddr := hext.nextAddr
    statics := hext.statics }⟩

/-! ## `js_mesibo_http_onclose` -/

/-- A request's context, there to be called back: its object, callback and module are set. -/
structure HttpContext.Armed (b : HttpContext) (mod : ModId) (o : ObjId) : Prop where
  mod : b.mod = some mod
  httpObj : b.httpObj = some o
  httpCb : ¬b.httpCb.isNullOrUndefined

/-- `onclose` gets as far as to run the callback: no failure, a processor, and a context from it. -/
def Closes (P : Platform) (mod : ModId) (result : Int64) (fs : ScriptFile) (s : System) : Prop :=
  result ≠ P.MESIBO_RESULT_FAIL ∧ ∃ mp, s.processor mod = some mp ∧ ContextReady P mp fs

section Close

variable {a : Addr} {b : HttpContext} {mod : ModId} {o : ObjId} {result : Int64} {fs : ScriptFile} {s s' : System}

theorem onclose_fail (a : Addr) (fs : ScriptFile) (s : System) :
    jsMesiboHttpOnclose P a P.MESIBO_RESULT_FAIL fs s = .ok s := by
  rw [jsMesiboHttpOnclose, if_pos rfl]

theorem onclose_gone (hr : result ≠ P.MESIBO_RESULT_FAIL) (h : s.world.https a = none) :
    jsMesiboHttpOnclose P a result fs s = .error .useAfterFree := by
  rw [jsMesiboHttpOnclose, if_neg (Ne.symm hr), h]

/-- With a context to run the callback in, `onclose` delivers. -/
theorem onclose_delivers (hP : P.Sandboxed) (ha : a < s.world.nextAddr) (hb : s.world.https a = some b)
    (harm : b.Armed mod o) (hr : result ≠ P.MESIBO_RESULT_FAIL) {mp mp' : Processor} (hmp : s.processor mod = some mp)
    {st : Option Int64} {w : World} (hg : getContext P mp fs s.world = .ok (st, mp', w)) (hcon : mp'.context_.isSome) :
    ∃ u, Delivered P a b o w u ∧ jsMesiboHttpOnclose P a result fs s = .ok (s.lock.putProcessor mod mp' u) := by
  obtain ⟨vc, hvc, hctx⟩ := Option.bind_eq_some_iff.mp hmp
  obtain ⟨c, hcon⟩ := Option.isSome_iff_exists.mp hcon
  have hext := getContext_extends hP hg
  obtain ⟨u, hu, hd⟩ := deliverResponse_ok hP c (Nat.lt_of_lt_of_le ha hext.nextAddr) ((hext.https a ha).trans hb)
    harm.httpObj harm.httpCb
  refine ⟨u, hd, ?_⟩
  simp only [jsMesiboHttpOnclose, if_neg (Ne.symm hr), hb, harm.mod, hvc, hctx, hg, hcon, hu]

theorem onclose_closes (hP : P.Sandboxed) (ha : a < s.world.nextAddr) (hb : s.world.https a = some b)
    (harm : b.Armed mod o) (hc : Closes P mod result fs s) : ∃ mp w u, s.world.Extends w ∧ Delivered P a b o w u ∧
      jsMesiboHttpOnclose P a result fs s = .ok (s.lock.putProcessor mod mp u) := by
  obtain ⟨hr, mp, hmp, hready⟩ := hc
  obtain ⟨st, mp', w, hg, hcon⟩ := (contextReady_iff mp fs s.world).mpr hready
  obtain ⟨u, hd, h⟩ := onclose_delivers hP ha hb harm hr hmp hg hcon
  exact ⟨mp', w, u, getContext_extends hP hg, hd, h⟩

theorem deliverResponse_empty {w : World} (hb : w.https a = some b) (harm : b.Armed mod o) :
    deliverResponse P none a w = .error .emptyHandle := by
  rw [deliverResponse, bind_eq (derefContext_eq hb), harm.httpObj]
  dsimp only
  rw [if_neg harm.httpCb]
  rfl

/-- An `onclose` that comes back from a processor had a context. -/
theorem onclose_ready (hP : P.Sandboxed) (ha : a < s.world.nextAddr) (hb : s.world.https a = some b)
    (harm : b.Armed mod o) (hr : result ≠ P.MESIBO_RESULT_FAIL) {mp : Processor} (hmp : s.processor mod = some mp)
    (h : jsMesiboHttpOnclose P a result fs s = .ok s') : ContextReady P mp fs := by
  obtain ⟨vc, hvc, hctx⟩ := Option.bind_eq_some_iff.mp hmp
  simp only [jsMesiboHttpOnclose, if_neg (Ne.symm hr), hb, harm.mod, hvc, hctx] at h
  cases hg : getContext P mp fs s.world with
  | error f => rw [hg] at h; cases h
  | ok r =>
    obtain ⟨st, mp', w⟩ := r
    refine (contextReady_iff mp fs s.world).mp ⟨st, mp', w, hg, ?_⟩
    cases hcon : mp'.context_ with
    | some c => rfl
    | none =>
      simp only [hg, hcon, deliverResponse_empty (((getContext_extends hP hg).https a ha).trans hb) harm] at h
      cases h

/-- Without what it needs it comes back having done nothing, if it comes back. -/
theorem onclose_stays (hP : P.Sandboxed) (ha : a < s.world.nextAddr) (hb : s.world.https a = some b)
    (harm : b.Armed mod o) (hc : ¬Closes P mod result fs s) (h : jsMesiboHttpOnclose P a result fs s = .ok s') :
    s' = s := by
  by_cases hr : result = P.MESIBO_RESULT_FAIL
  · subst hr
    rw [onclose_fail] at h
    cases h; rfl
  · cases hmp : s.processor mod with
    | some mp => exact absurd ⟨hr, mp, hmp, onclose_ready hP ha hb harm hr hmp h⟩ hc
    | none =>
      simp only [jsMesiboHttpOnclose, if_neg (Ne.symm hr), hb, harm.mod] at h
      unfold System.processor at hmp
      cases hvc : s.configs mod with
      | none => rw [hvc] at h; cases h
      | some vc =>
        rw [hvc, Option.bind_some] at hmp
        simp only [hvc, hmp] at h
        cases h; rfl

end Close

/-! ## Requests -/

/-- A request's context when `HttpCallback` has returned. -/
theorem httpCallback_context {info : CallInfo} {w₀ w : World} {r : JsVal} {mod : ModId} {cb d : JsVal}
    (hs : HttpSends info w₀ mod cb d) (h : httpCallback P info w₀ = .ok (r, w)) :
    w₀.nextAddr < w.nextAddr ∧ w.https w₀.nextAddr = some (freshContext mod info.this cb d) := by
  have hext := extends_nativeFrame.httpCallback_sent hs h
  have hlt : w₀.nextAddr < (w₀.addContext (freshContext mod info.this cb d)).nextAddr := Nat.lt_succ_self _
  refine ⟨Nat.lt_of_lt_of_le hlt hext.nextAddr, ?_⟩
  rw [hext.https _ hlt]
  exact Function.update_self _ _ _

theorem freshContext_armed {info : CallInfo} {w₀ : World} {mod : ModId} {cb d : JsVal}
    (hs : HttpSends info w₀ mod cb d) : (freshContext mod info.this cb d).Armed mod info.this := by
  refine ⟨rfl, rfl, ?_⟩
  show ¬cb.isNullOrUndefined
  rw [JsVal.isNullOrUndefined_of_isFunction hs.function]
  exact Bool.false_ne_true

end MesiboV8
