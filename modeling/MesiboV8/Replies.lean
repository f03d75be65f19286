/-
  MesiboV8.Replies — what the host is told, and how far it can rely on it.

  `reply` is a call of the host with what it returns. A message is answered with what its
  listener returns, if that is an int32, and `MESIBO_RESULT_FAIL` otherwise; an initialisation
  is OK exactly when the module has got a processor from it. About a request the host is told
  nothing that it could not know: the reply to an `ondata` or an `onstatus` follows from the
  calls it has made about that request before (`run_replies`), whatever the scripts do.
-/

import MesiboV8.HttpResponses
import MesiboV8.Modules

namespace MesiboV8

open Lib.Bytes Lib.Utf Lib.Effects Lib.Runs Act

variable {P : Platform}

/-! ## Replies -/

/-- Code that only works on the world, with what it returns. -/
def System.apply {α : Type} (s : System) (x : Act α) : Except Fault (α × System) :=
  (x s.world).map fun r => (r.1, { s with world := r.2 })

def told (x : Except Fault (Int64 × System)) : Except Fault (Option Int64 × System) := x.map fun r => (some r.1, r.2)

/-- A call of the host and what it returns; `onclose` returns nothing. -/
def reply (P : Platform) (s : System) : Event → Except Fault (Option Int64 × System)
  | .moduleInit m config fs => told (mesiboModuleV8Init P m config fs s)
  | .message mod p message len fs => told (v8OnMessage P mod p message len fs s)
  | .messageStatus mod p status fs => told (v8OnMessageStatus P mod p status fs s)
  | .httpData a state progress buffer size => told (s.apply (jsMesiboHttpOndata P a state progress buffer size))
  | .httpStatus a status responseType => told (s.apply (jsMesiboHttpOnstatus P a status responseType))
  | .httpClose a result fs => (jsMesiboHttpOnclose P a result fs s).map (none, ·)

theorem apply_ok {α : Type} {s t : System} {x : Act α} {a : α} :
    s.apply x = .ok (a, t) ↔ ∃ w, x s.world = .ok (a, w) ∧ t = { s with world := w } := by
  unfold System.apply
  cases x s.world with
  | error g => simp [Except.map]
  | ok r => simp [Except.map, Prod.ext_iff, eq_comm]

theorem told_ok {x : Except Fault (Int64 × System)} {rv : Option Int64} {t : System} :
    told x = .ok (rv, t) ↔ ∃ a, rv = some a ∧ x = .ok (a, t) := by
  cases x with
  | error g => simp [told, Except.map]
  | ok r => simp [told, Except.map, Prod.ext_iff, eq_comm]

/-- The machine of the host's calls, with the replies dropped. -/
theorem step_reply {s t : System} {e : Event} : step P s e = .ok t ↔ ∃ rv, reply P s e = .ok (rv, t) := by
  have returned : ∀ {x : Except Fault (Int64 × System)}, (∃ a, x = .ok (a, t)) ↔ ∃ rv, told x = .ok (rv, t) := by
    intro x
    simp only [told_ok]
    rw [exists_comm]
    simp
  cases e with
  | moduleInit | message | messageStatus => exact returned_ok.trans returned
  | httpData | httpStatus =>
    refine exec_ok.trans (Iff.trans ?_ returned)
    exact exists_congr fun a => apply_ok.symm
  | httpClose a result fs =>
    show jsMesiboHttpOnclose P a result fs s = .ok t ↔ _
    cases hx : jsMesiboHttpOnclose P a result fs s with
    | error g => simp [reply, hx, Except.map]
    | ok u => simp [reply, hx, Except.map]

/-! ## What they say -/

/-- What is made of what a function has returned; `none`: it has thrown. -/
def replyOf (P : Platform) : Option JsVal → Int64
  | none => P.MESIBO_RESULT_FAIL
  | some v => if v.isInt32 then v.integerValue else P.MESIBO_RESULT_FAIL

/-- The reply of a listener called in `u`. -/
def ListenerReply (P : Platform) (context : CtxId) (f : JsVal) (args : List JsVal) (u : World) (rv : Int64) (w : World) :
    Prop :=
  (f = .null ∧ rv = P.MESIBO_RESULT_FAIL ∧ w = u) ∨
  (f.isFunction ∧ ∃ r, P.call context f args { u with invoked := u.invoked ++ [⟨f, args, u.heap⟩] } = (r, w) ∧
    rv = replyOf P r)

/-- What becomes of a chunk of a request with the response `r`. -/
def Response.reply (P : Platform) (r : Response) (state progress : Int64) (buffer : Option Mem) (size : Int64) : Int64 :=
  if progress < 0 then P.MESIBO_RESULT_FAIL
  else if state = P.MODULE_HTTP_STATE_RESPBODY ∧ buffer.isSome ∧ HTTP_BUFFER_LEN < r.stored.len + size.toInt then
    P.MESIBO_RESULT_FAIL
  else P.MESIBO_RESULT_OK

/-- What the reply to `e` says in `s`, to which the calls `past` have led. -/
def Event.Replies (P : Platform) (past : List Event) (s : System) (e : Event) (rv : Option Int64) (t : System) : Prop :=
  match e with
  | .moduleInit m config fs =>
    (rv = some P.MESIBO_RESULT_OK ∧ ∃ script log p, config = some ⟨some script, some log⟩ ∧ Initialises P m script fs p s t) ∨
    (rv = some P.MESIBO_RESULT_FAIL ∧ t.configs = s.configs)
  | .message mod p _ _ fs => ∃ mp o u context jsFun x, Inbound P s mod p fs mp o u ∧ mp.context_ = some context ∧
      mp.jsMesiboOnMessage = some jsFun ∧ rv = some x ∧ ListenerReply P context jsFun [.object o] u x t.world
  | .messageStatus mod p status fs => ∃ mp o u context x, Inbound P s mod p fs mp o u ∧ mp.context_ = some context ∧
      rv = some x ∧ ListenerReply P context (getGlobalFunction context JS_MESIBO_LISTENER_ON_MESSAGE_STATUS u)
        [.object o, .ofUint32 status.toUInt32] u x t.world
  | .httpData a state progress buffer size => rv = some ((response P a past).reply P state progress buffer size)
  | .httpStatus _ _ responseType => rv = some (if responseType.isSome then P.MESIBO_RESULT_OK else P.MESIBO_RESULT_FAIL)
  | .httpClose .. => rv = none

theorem Calls.reply {context : CtxId} {f : JsVal} {args : List JsVal} {u w : World} {rv : Int64}
    (hf : f = .null ∨ f.isFunction) (h : Calls P context f args u rv w) : ListenerReply P context f args u rv w := by
  unfold Calls at h
  rcases hf with rfl | hf
  · exact .inl ⟨rfl, h⟩
  · rw [if_neg (by simp [JsVal.isNullOrUndefined_of_isFunction hf])] at h
    refine .inr ⟨hf, ?_⟩
    unfold executeJsFunctionObj at h
    dsimp only at h
    split at h
    · rename_i hc
      cases h
      exact ⟨none, hc, rfl⟩
    · rename_i v _ hc
      cases hv : v.isInt32 with
      | false =>
        rw [hv] at h
        cases h
        exact ⟨some v, hc, by rw [replyOf, if_neg (by simp [hv])]⟩
      | true =>
        rw [hv] at h
        cases h
        refine ⟨some v, hc, ?_⟩
        rw [replyOf, if_pos hv, jtoCInt, hv]
        rfl

theorem ondata_reply {a : Addr} {b : HttpContext} {r : Response} {w u : World} (hb : w.https a = some b) (ht : b.Tells r)
    {state progress : Int64} {buffer : Option Mem} {size rv : Int64}
    (h : jsMesiboHttpOndata P a state progress buffer size w = .ok (rv, u)) : rv = r.reply P state progress buffer size := by
  have hlen : r.stored.len ≤ HTTP_BUFFER_LEN := ht.len.trans ht.buffer.fits
  rw [ondata_eq hb] at h
  unfold Response.reply
  by_cases hp : progress < 0
  · rw [if_pos hp] at h ⊢
    cases h
    rfl
  rw [if_neg hp] at h ⊢
  by_cases hs : P.MODULE_HTTP_STATE_RESPBODY ≠ state
  · rw [if_pos hs] at h
    rw [if_neg fun hx => hs hx.1.symm]
    cases h
    rfl
  rw [if_neg hs] at h
  have hs := (not_not.mp hs).symm
  cases buffer with
  | none =>
    rw [if_neg (by simp)]
    cases h
    rfl
  | some src =>
    by_cases hover : size.toInt < 0 ∨ 2 ^ 63 ≤ r.stored.len + size.toInt
    · rw [storeBody_overruns ht.datalen hlen hover] at h
      cases h
    · by_cases hfits : r.stored.len + size.toInt ≤ HTTP_BUFFER_LEN
      · obtain ⟨d, -, he⟩ := storeBody_fits src ht.datalen (by omega) hfits
        rw [he] at h
        rw [if_neg fun hx => absurd hx.2.2 (by omega)]
        cases h
        rfl
      · rw [storeBody_refused ht.datalen hlen (by omega) (by omega)] at h
        rw [if_pos ⟨hs, rfl, by omega⟩]
        cases h
        rfl

/-- In every run, every call of the host that comes back has the reply it is to have. -/
theorem run_replies (hP : P.Sandboxed) {past : List Event} {s t : System} (h : run (step P) .start past = .ok s)
    {e : Event} (ht : step P s e = .ok t) : ∃ rv, reply P s e = .ok (rv, t) ∧ e.Replies P past s rv t := by
  have hs := run_sound hP h
  obtain ⟨rv, hr⟩ := step_reply.mp ht
  refine ⟨rv, hr, ?_⟩
  cases e with
  | moduleInit m config fs =>
    obtain ⟨x, rfl, hx⟩ := told_ok.mp hr
    rcases initialisation_outcome hx with ⟨rfl, hi⟩ | ⟨rfl, hc⟩
    · exact .inl ⟨rfl, hi⟩
    · exact .inr ⟨rfl, hc⟩
  | message mod p message len fs =>
    obtain ⟨x, rfl, hx⟩ := told_ok.mp hr
    obtain ⟨mp₀, mp, w, hm, ho, rfl⟩ := v8OnMessage_cases hx
    obtain ⟨st, v, context, o, v', jsFun, hg, hp, hc, hf, hcall⟩ := onMessage_calls ho
    have hin := inbound_of hP hs hm hg hp
    have hfun : jsFun = .null ∨ jsFun.isFunction := by
      obtain ⟨f, hf', hcallable⟩ := hin.usable.listener
      cases hf.symm.trans hf'
      exact hcallable
    exact ⟨mp, o, v', context, jsFun, x, hin, hc, hf, rfl, hcall.reply hfun⟩
  | messageStatus mod p status fs =>
    obtain ⟨x, rfl, hx⟩ := told_ok.mp hr
    obtain ⟨mp₀, mp, w, hm, ho, rfl⟩ := v8OnMessageStatus_cases hx
    obtain ⟨st, v, context, o, v', hg, hp, hc, hcall⟩ := onMessageStatus_calls ho
    exact ⟨mp, o, v', context, x, inbound_of hP hs hm hg hp, hc, rfl, hcall.reply (getGlobalFunction_callable _ _ _)⟩
  | httpData a state progress buffer size =>
    obtain ⟨x, rfl, hx⟩ := told_ok.mp hr
    obtain ⟨w, hx, -⟩ := apply_ok.mp hx
    obtain ⟨b, v, hb, -⟩ := bind_ok.mp hx
    obtain ⟨hb, -⟩ := derefContext_ok hb
    exact congrArg some (ondata_reply hb (run_holds hP h hb) hx)
  | httpStatus a status responseType =>
    obtain ⟨x, rfl, hx⟩ := told_ok.mp hr
    obtain ⟨w, hx, -⟩ := apply_ok.mp hx
    cases responseType with
    | none =>
      cases hx
      rfl
    | some type =>
      obtain ⟨b, v, hb, -⟩ := bind_ok.mp hx
      obtain ⟨hb, -⟩ := derefContext_ok hb
      obtain ⟨mod, hm⟩ := Option.isSome_iff_exists.mp (hs.requests a b hb).mod
      rw [onstatus_eq hb hm] at hx
      cases hst : storeStatus b status type with
      | error f => rw [hst] at hx; cases hx
      | ok b' =>
        rw [hst] at hx
        cases hx
        rfl
  | httpClose a result fs =>
    have hr : (jsMesiboHttpOnclose P a result fs s).map (none, ·) = .ok (rv, t) := hr
    cases hx : jsMesiboHttpOnclose P a result fs s with
    | error f => rw [hx] at hr; cases hr
    | ok u =>
      rw [hx] at hr
      cases hr
      rfl

/-- A chunk larger than the buffer is refused. -/
theorem run_replies_refused : ∃ s t, run (step .fetching) .start (fetchingRun.take 3) = .ok s ∧
    reply .fetching s (.httpData 0 4 50 (some (Mem.ofList [0x61])) 65537) =
      .ok (some Platform.fetching.MESIBO_RESULT_FAIL, t) := by
  obtain ⟨s, t, h, ht⟩ : ∃ s t, run (step .fetching) .start (fetchingRun.take 3) = .ok s ∧
    step .fetching s (.httpData 0 4 50 (some (Mem.ofList [0x61])) 65537) = .ok t := ⟨_, _, rfl, rfl⟩
  obtain ⟨rv, hr, hrv⟩ := run_replies (Platform.calling_sandboxed _) h ht
  have hfail : (response .fetching 0 (fetchingRun.take 3)).reply .fetching 4 50 (some (Mem.ofList [0x61])) 65537 =
      Platform.fetching.MESIBO_RESULT_FAIL := by decide
  exact ⟨s, t, h, hr.trans (by rw [show rv = _ from hrv, hfail])⟩

end MesiboV8
