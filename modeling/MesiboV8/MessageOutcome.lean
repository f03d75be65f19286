/-
  MesiboV8.MessageOutcome — the ways a call of `Message.send` can end.

  It is to send the message and return the host's result, or to throw an error that names
  `send` and the reason. An `External` is registered as its data, which the error reporter
  takes for a function all the same, and a `Uint8Array` is dropped without a word; so the
  one good end is the first, and it takes a receiver that is sent and a result of 32 bits
  (`one_outcome_iff`).
-/

import MesiboV8.MessageSend

namespace MesiboV8

open Lib.Bytes Lib.Utf Lib.Effects Act

variable {P : Platform}

/-! ## What is asked of the host -/

/-- What `send` asks the host for, and the world it asks in. -/
structure Request (P : Platform) (info : CallInfo) (w : World) (mod : ModId) (p : MessageParams) (message : CString)
    (v : World) : Prop where
  mod : info.mod = some mod
  payload : ∃ m s, w.get info.this MESSAGE_MESSAGE = some m ∧ (getJsMessageType m).sent ∧
    payloadString P m w = some s ∧ message = .ofBytes (P.utf8Value s)
  params : jtoCMessageParams P info.this { w with live := .str :: w.live } = .ok (p, v)

/-- The host's result. -/
def hostResult (P : Platform) (mod : ModId) (p : MessageParams) (message : CString) (v : World) : Int64 :=
  P.mesiboMessage mod p message (.ofNat message.bytes.length) v

section Request

variable {info : CallInfo} {w v : World} {mod : ModId} {p : MessageParams} {message : CString}

theorem Request.unique (h : Request P info w mod p message v) {mod' : ModId} {p' : MessageParams} {message' : CString}
    {v' : World} (h' : Request P info w mod' p' message' v') : mod = mod' ∧ p = p' ∧ message = message' ∧ v = v' := by
  obtain ⟨hm, ⟨m, s, hg, -, hs, rfl⟩, hp⟩ := h
  obtain ⟨hm', ⟨m', s', hg', -, hs', rfl⟩, hp'⟩ := h'
  cases hm.symm.trans hm'
  cases hg.symm.trans hg'
  cases hs.symm.trans hs'
  cases hp.symm.trans hp'
  exact ⟨rfl, rfl, rfl, rfl⟩

theorem request_exists (hr : SendReturns P info w) (h : SendReaches info w) :
    ∃ mod p message v, Request P info w mod p message v := by
  obtain ⟨m, s, hm, hs, hp, hk⟩ := h.payload hr
  obtain ⟨mod, hmod⟩ := Option.isSome_iff_exists.mp h.2.1
  obtain ⟨⟨p, v⟩, hparams⟩ :=
    ((jtoCMessageParams_reads (P := P) info.this).returns { w with live := .str :: w.live }).mpr hk
  exact ⟨mod, p, _, v, hmod, ⟨m, s, hm, hs, hp, rfl⟩, hparams⟩

theorem messageCallback_request (h : Request P info w mod p message v) (ha : Addressed info w) :
    ∃ u, messageCallback P info w = .ok (.ofInt32 (hostResult P mod p message v).toInt32, u) ∧
      u.calls = w.calls ++ [.mesiboMessage mod p message (.ofNat message.bytes.length)] := by
  obtain ⟨hmod, ⟨m, s, hm, hs, hp, rfl⟩, hparams⟩ := h
  rw [messageCallback_sent hm hs, hp]
  exact sendPayload_call (.ofBytes (P.utf8Value s)) (w := { w with live := .str :: w.live }) hmod ha hparams

end Request

/-! ## Outcomes -/

/-- The message is sent, and the host's result returned. -/
def Sent (P : Platform) (info : CallInfo) (w : World) : Prop :=
  ∃ mod p message v u, Request P info w mod p message v ∧
    messageCallback P info w = .ok (.num (.int (hostResult P mod p message v).toInt), u) ∧
    u.calls = w.calls ++ [.mesiboMessage mod p message (.ofNat message.bytes.length)]

/-- Nothing is sent, and an exception is left that names the callable and the reason. -/
def Rejected (P : Platform) (info : CallInfo) (w : World) : Prop :=
  ∃ r u text, messageCallback P info w = .ok (r, u) ∧ u.calls = w.calls ∧ u.pending = some (.str text) ∧
    jsLiteral MESSAGE_SEND <:+: text ∧ ∃ reason ∈ ["Invalid: message", "Invalid params"], jsLiteral reason <:+: text

/-- Whether a callable's data is a function: the module registers none with such data. -/
def Data.isFunction : Data → Bool
  | .undefined | .external _ => false

/-- A call ends in one of the two, in the second only where the data that the reporter takes
    for a function is one. -/
def OneOutcome (P : Platform) (info : CallInfo) (w : World) : Prop :=
  Sent P info w ∨ (Rejected P info w ∧ info.data.isFunction)

theorem ofInt32_eq_iff {x : Int64} : JsVal.ofInt32 x.toInt32 = .num (.int x.toInt) ↔ -2 ^ 31 ≤ x.toInt ∧ x.toInt < 2 ^ 31 := by
  rw [JsVal.ofInt32, JsVal.num.injEq, JsNum.int.injEq, Int64.toInt_toInt32, Int.bmod_def]
  have h₁ := x.le_toInt
  have h₂ := x.toInt_lt
  split <;> omega

theorem sent_reaches {info : CallInfo} {w : World} (h : Sent P info w) : SendReturns P info w ∧ SendReaches info w := by
  obtain ⟨mod, p, message, v, u, -, hc, hcalls⟩ := h
  refine ⟨messageCallback_reads hc, ?_⟩
  by_cases hr : SendReaches info w
  · exact hr
  · rw [messageCallback_refused hr hc] at hcalls
    simp at hcalls

/-- A call of the `send` of a module's messages ends as it should exactly for a receiver
    that is sent and a result that an int32 can hold. -/
theorem one_outcome_iff (o : ObjId) (mod : ModId) (args : List JsVal) (construct : Bool) (isolate : IsolateId) (w : World) :
    OneOutcome P ⟨o, .external (some mod), args, construct, isolate⟩ w ↔
      SendReturns P ⟨o, .external (some mod), args, construct, isolate⟩ w ∧
      SendReaches ⟨o, .external (some mod), args, construct, isolate⟩ w ∧
      ∀ mod' p message v, Request P ⟨o, .external (some mod), args, construct, isolate⟩ w mod' p message v →
        -2 ^ 31 ≤ (hostResult P mod' p message v).toInt ∧ (hostResult P mod' p message v).toInt < 2 ^ 31 := by
  generalize hi : (⟨o, .external (some mod), args, construct, isolate⟩ : CallInfo) = info
  constructor
  · intro h
    rcases h with h | ⟨-, hf⟩
    · obtain ⟨hret, hreach⟩ := sent_reaches h
      refine ⟨hret, hreach, fun mod' p message v hq => ?_⟩
      obtain ⟨mod₁, p₁, message₁, v₁, u, hq₁, hc, -⟩ := h
      obtain ⟨rfl, rfl, rfl, rfl⟩ := hq.unique hq₁
      obtain ⟨u', hc', -⟩ := messageCallback_request hq hreach.2
      rw [hc] at hc'
      exact ofInt32_eq_iff.mp (congrArg Prod.fst (Except.ok.inj hc')).symm
    · subst hi
      cases hf
  · intro h
    obtain ⟨hret, hreach, hfits⟩ := h
    obtain ⟨mod', p, message, v, hq⟩ := request_exists hret hreach
    obtain ⟨u, hc, hcalls⟩ := messageCallback_request hq hreach.2
    rw [ofInt32_eq_iff.mpr (hfits mod' p message v hq)] at hc
    exact .inl ⟨mod', p, message, v, u, hq, hc, hcalls⟩

/-- Every property of every object is a `Uint8Array`. -/
def World.withArray : World := { World.empty with heap := fun _ _ => .data (.uint8Array 1) }

/-- It comes back from `send` with nothing sent and no exception. -/
theorem array_dropped : ¬∀ (o : ObjId) (mod : ModId) (w : World),
    OneOutcome .reference ⟨o, .external (some mod), [], false, 0⟩ w := by
  intro h
  have hc : messageCallback .reference ⟨0, .external (some 0), [], false, 0⟩ .withArray = .ok (.undefined, .withArray) := rfl
  rcases h 0 0 .withArray with ⟨mod, p, message, v, u, -, hs, -⟩ | ⟨⟨r, u, text, hr, -, hp, -⟩, -⟩
  · rw [hc] at hs
    cases hs
  · cases hc.symm.trans hr
    cases hp

end MesiboV8
