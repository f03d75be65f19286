/-
  MesiboV8.MessageSend — what `MessageCallback` does with its receiver.

  (1) It comes back exactly when its lookups and the `JSON::Stringify` of its message
  succeed (`messageCallback_returns`); reporting an error comes back for callables whose
  `Data()` is an `External` (`reportException_returns`), as that of `send` is.

  (2) It calls the host exactly when `SendReaches` holds, with the integers its
  properties convert to (`messageCallback_reached`, `messageCallback_refused`).
-/

import MesiboV8.Params

namespace MesiboV8

open Lib.Bytes Lib.Utf Lib.Effects Act

variable {P : Platform}

/-! ## Reporting an error -/

/-- The name of a callable's `Data()`, if it has one, is not as long as a string can be. -/
def Platform.ShortNames (P : Platform) : Prop :=
  ∀ mod s, P.functionName mod = some s → (P.utf8Value s).length ≤ 2 ^ 20

theorem jtoCString_eq {v : JsVal} {w : World} {bytes : List UInt8} (hv : v.isNullOrUndefined = false)
    (hb : P.toUtf8 v w = some bytes) :
    jtoCString P v w = .ok (some (.ofBytes bytes), { w with live := .str :: w.live }) := by
  rw [jtoCString, hv]
  exact (get_bind (s := w)).trans (by rw [hb]; rfl)

theorem jtoCString_ok {v : JsVal} {w u : World} {s : Option CString} (h : jtoCString P v w = .ok (s, u)) :
    w.Quiet u ∧ (s = none ↔ v.isNullOrUndefined) ∧ ∀ c ∈ s, ∃ b ∈ P.toUtf8 v w, c = .ofBytes b := by
  unfold jtoCString at h
  by_cases hv : v.isNullOrUndefined
  · rw [if_pos hv] at h
    cases h
    exact ⟨.refl w, by simp [hv], by simp⟩
  · rw [if_neg hv, get_bind] at h
    cases hb : P.toUtf8 v w with
    | none => rw [hb] at h; cases h
    | some b =>
      rw [hb] at h
      cases h
      exact ⟨.withLive w _, by simp [hv], fun c hc => ⟨b, rfl, by cases hc; rfl⟩⟩

theorem jtoCString_world {v : JsVal} {w u : World} {s : Option CString} (h : jtoCString P v w = .ok (s, u)) :
    u = w.withCopy s := by
  unfold jtoCString at h
  by_cases hv : v.isNullOrUndefined
  · rw [if_pos hv] at h
    cases h; rfl
  · rw [if_neg hv, get_bind] at h
    cases hb : P.toUtf8 v w with
    | none => rw [hb] at h; cases h
    | some b => rw [hb] at h; cases h; rfl

theorem dataName_ok {data : Data} {w u : World} {name : JsVal} (h : dataName P data w = .ok (name, u)) :
    data ≠ .undefined ∧ u = w := by
  cases data with
  | undefined => cases h
  | external mod => cases h; exact ⟨by simp, rfl⟩

/-- All that an error leaves is an exception. -/
theorem reportException_world {info : CallInfo} {message : String} {w u : World} {r : JsVal}
    (h : reportExceptionInCallable P info message w = .ok (r, u)) : u = { w with pending := u.pending } := by
  rw [reportExceptionInCallable, bind_ok] at h
  obtain ⟨x, v, hx, h₁⟩ := h
  obtain ⟨-, rfl⟩ := dataName_ok hx
  obtain ⟨name, v, hv, h⟩ := bind_ok.mp h₁
  obtain rfl := jtoCString_world hv
  cases name with
  | none => cases h; rfl
  | some funcName =>
    obtain ⟨s, x, hs, h⟩ := bind_ok.mp h
    cases hs
    obtain ⟨js, x, hx, h⟩ := bind_ok.mp h
    obtain ⟨-, rfl⟩ := toLocalChecked_ok hx
    -- the two strings are freed again
    cases h
    rfl

theorem reportException_quiet {info : CallInfo} {message : String} {w u : World} {r : JsVal}
    (h : reportExceptionInCallable P info message w = .ok (r, u)) : w.Quiet u := by
  rw [reportException_world h]
  rfl

theorem invalidMessage_quiet {info : CallInfo} {message : String} {w u : World} {r : JsVal}
    (h : invalidMessage P info message w = .ok (r, u)) : w.Quiet u := by
  obtain ⟨_, _, hv, h⟩ := bind_ok.mp h
  cases h
  exact reportException_quiet hv

/-- Undefined has no name that could be asked for. -/
theorem reportException_undefined {info : CallInfo} (hd : info.data = .undefined) (message : String) (w : World) :
    reportExceptionInCallable P info message w = .error .badCast := by
  rw [reportExceptionInCallable, hd]
  rfl

theorem reportException_returns (hn : P.ShortNames) {info : CallInfo} (hd : info.data ≠ .undefined) {message : String}
    (hm : (utf8 message.toList).length ≤ 2 ^ 20) (w : World) :
    ∃ r, reportExceptionInCallable P info message w = .ok r := by
  unfold reportExceptionInCallable
  obtain ⟨mod, hd⟩ : ∃ mod, info.data = .external mod := by
    cases h : info.data with
    | undefined => exact absurd h hd
    | external mod => exact ⟨mod, rfl⟩
  rw [hd]
  cases hf : P.functionName mod with
  | none =>
    have hname : dataName P (.external mod) w = .ok (.undefined, w) := by rw [dataName, hf]; rfl
    rw [bind_eq hname]
    exact ⟨_, rfl⟩
  | some s =>
    have hname : dataName P (.external mod) w = .ok (.str s, w) := by rw [dataName, hf]; rfl
    rw [bind_eq hname]
    have h₁ : (cstr (P.utf8Value s)).length ≤ 2 ^ 20 := (cstr_length_le _).trans (hn _ s hf)
    have h₂ : (CString.ofBytes (utf8 "Error in Function ".toList ++ (CString.ofBytes (P.utf8Value s)).bytes ++
        utf8 ": ".toList ++ utf8 message.toList ++ utf8 "\n".toList)).bytes.length ≤ P.kMaxLength := by
      have hk := P.kMaxLength_ge
      have hl : (utf8 "Error in Function ".toList).length = 18 := by decide
      have hc : (utf8 ": ".toList).length = 2 := by decide
      have he : (utf8 "\n".toList).length = 1 := by decide
      refine (cstr_length_le _).trans ?_
      simp only [List.length_append, CString.ofBytes_bytes, hl, hc, he]
      omega
    obtain ⟨js, hjs⟩ := Option.isSome_iff_exists.mp (P.newFromUtf8_isSome _ h₂)
    rw [bind_eq (jtoCString_eq rfl rfl)]
    dsimp only
    rw [bind_eq (strdup_apply _ _), hjs]
    exact ⟨_, rfl⟩

theorem invalidMessage_returns (hn : P.ShortNames) {info : CallInfo} (hd : info.data ≠ .undefined) {message : String}
    (hm : (utf8 message.toList).length ≤ 2 ^ 20) (w : World) : ∃ r, invalidMessage P info message w = .ok r := by
  obtain ⟨r, hr⟩ := reportException_returns hn hd hm w
  exact ⟨_, bind_eq hr⟩

theorem invalidMessage_undefined {info : CallInfo} (hd : info.data = .undefined) (message : String) (w : World) :
    invalidMessage P info message w = .error .badCast := bind_error (reportException_undefined hd message w)

/-! ## The payload -/

/-- The types of message `MessageCallback` sends. -/
def JsMessageType.sent : JsMessageType → Bool
  | string | integer | object => true
  | array | invalid => false

theorem getJsMessageType_string {m : JsVal} (h : getJsMessageType m = .string) : ∃ s, m = .str s := by
  cases m with
  | str s => exact ⟨s, rfl⟩
  | num n => unfold getJsMessageType at h; split at h <;> simp [JsVal.isString, JsVal.isUint8Array, JsVal.isObject] at h
  | _ => cases h

theorem getJsMessageType_integer {m : JsVal} (h : getJsMessageType m = .integer) : ∃ n, m = .num n := by
  cases m with
  | num n => exact ⟨n, rfl⟩
  | _ => cases h

/-- The string a message is turned into; `none` when that throws. -/
def payloadString (P : Platform) (m : JsVal) (w : World) : Option JsString :=
  if getJsMessageType m = .object then P.stringify m w else P.toStr m w

theorem payloadString_isSome {m : JsVal} (hs : (getJsMessageType m).sent) (w : World) :
    (payloadString P m w).isSome ↔ (getJsMessageType m = .object → (P.stringify m w).isSome) := by
  unfold payloadString
  cases ht : getJsMessageType m with
  | object => simp
  | string => obtain ⟨s, rfl⟩ := getJsMessageType_string ht; simp [Platform.toStr]
  | integer => obtain ⟨n, rfl⟩ := getJsMessageType_integer ht; simp [Platform.toStr]
  | array => rw [ht] at hs; cases hs
  | invalid => rw [ht] at hs; cases hs

theorem messagePayload_eq {m : JsVal} {w : World} (hs : (getJsMessageType m).sent) :
    messagePayload P (getJsMessageType m) m w = match payloadString P m w with
      | some s => .ok (some (.ofBytes (P.utf8Value s)), { w with live := .str :: w.live })
      | none => .error .toLocalChecked := by
  unfold payloadString
  cases ht : getJsMessageType m with
  | object =>
    rw [if_pos rfl]
    show (toLocalChecked (P.stringify m w) >>= fun s => jtoCString P (.str s)) w = _
    cases P.stringify m w with
    | none => rfl
    | some s => rfl
  | string => obtain ⟨s, rfl⟩ := getJsMessageType_string ht; rfl
  | integer => obtain ⟨n, rfl⟩ := getJsMessageType_integer ht; rfl
  | array => rw [ht] at hs; cases hs
  | invalid => rw [ht] at hs; cases hs

/-! ## Sending it -/

/-- The module, `aid` and `id` that a message is not sent without. -/
def Addressed (info : CallInfo) (w : World) : Prop :=
  info.mod.isSome ∧ ∀ k ∈ [MESSAGE_AID, MESSAGE_ID], ∀ v, w.get info.this k = some v →
    ¬v.isNullOrUndefined ∧ v ≠ .num (.int 0)

theorem addressed_iff {info : CallInfo} {w v : World} {p : MessageParams} (hm : info.mod.isSome)
    (hp : jtoCMessageParams P info.this w = .ok (p, v)) : Addressed info w ↔ ¬(p.aid = 0 ∨ p.id = 0) := by
  have hints := (jtoCMessageParams_ok hp).1
  simp only [MessageParams.ints, World.intParams, intKeys, List.map_cons, List.cons.injEq] at hints
  have hget := ((jtoCMessageParams_reads (P := P) info.this).returns w).mp ⟨_, hp⟩
  obtain ⟨a, ha⟩ := Option.isSome_iff_exists.mp (hget MESSAGE_AID (by simp [paramKeys, intKeys]))
  obtain ⟨i, hi⟩ := Option.isSome_iff_exists.mp (hget MESSAGE_ID (by simp [paramKeys, intKeys]))
  rw [hints.1, hints.2.1, ha, hi, Option.getD_some, Option.getD_some, uintParam_eq_zero, uintParam_eq_zero]
  simp [Addressed, hm, ha, hi]

theorem sendPayload_reads {info : CallInfo} {message : CString} {w : World} {r : JsVal × World}
    (h : sendPayload P info message w = .ok r) (hm : info.mod.isSome) : ∀ k ∈ paramKeys, (w.get info.this k).isSome := by
  obtain ⟨mod, hm⟩ := Option.isSome_iff_exists.mp hm
  rw [sendPayload, hm] at h
  obtain ⟨p, v, hp, -⟩ := bind_ok.mp h
  exact ((jtoCMessageParams_reads info.this).returns w).mp ⟨_, hp⟩

theorem CallInfo.data_ne_undefined {info : CallInfo} {mod : ModId} (h : info.mod = some mod) : info.data ≠ .undefined :=
  fun hd => by rw [CallInfo.mod, hd] at h; cases h

theorem sendPayload_returns (hn : P.ShortNames) {info : CallInfo} {w : World}
    (h : info.mod.isSome → ∀ k ∈ paramKeys, (w.get info.this k).isSome) (message : CString) :
    ∃ r, sendPayload P info message w = .ok r := by
  unfold sendPayload
  cases hm : info.mod with
  | none => exact ⟨_, rfl⟩
  | some mod =>
    obtain ⟨⟨p, v⟩, hp⟩ := ((jtoCMessageParams_reads (P := P) info.this).returns w).mpr (h (by simp [hm]))
    dsimp only
    rw [bind_eq hp]
    split
    · exact invalidMessage_returns hn (CallInfo.data_ne_undefined hm) (by decide) v
    · cases p.to_ <;> cases p.from_ <;> exact ⟨_, rfl⟩

/-- An addressed message is sent, and the host's result returned, cut to 32 bits. -/
theorem sendPayload_call {info : CallInfo} {mod : ModId} (message : CString) {w v : World} {p : MessageParams}
    (hm : info.mod = some mod) (ha : Addressed info w) (hp : jtoCMessageParams P info.this w = .ok (p, v)) :
    ∃ u, sendPayload P info message w =
        .ok (.ofInt32 (P.mesiboMessage mod p message (.ofNat message.bytes.length) v).toInt32, u) ∧
      u.calls = w.calls ++ [.mesiboMessage mod p message (.ofNat message.bytes.length)] := by
  have hz := (addressed_iff ha.1 hp).mp ha
  have hv := (jtoCMessageParams_reads info.this).quiet hp
  rw [sendPayload, hm, ← hv.calls]
  dsimp only
  rw [bind_eq hp, if_neg hz]
  cases p.to_ <;> cases p.from_ <;> exact ⟨_, rfl, rfl⟩

/-- It goes with the receiver's integers and the module in the callable's data. -/
theorem sendPayload_sends {info : CallInfo} (message : CString) {w : World} (ha : Addressed info w)
    (hk : ∀ k ∈ paramKeys, (w.get info.this k).isSome) : ∃ r u mod p, sendPayload P info message w = .ok (r, u) ∧
      info.mod = some mod ∧ p.ints = w.intParams info.this ∧
      u.calls = w.calls ++ [.mesiboMessage mod p message (.ofNat message.bytes.length)] := by
  obtain ⟨⟨p, v⟩, hp⟩ := ((jtoCMessageParams_reads (P := P) info.this).returns w).mpr hk
  obtain ⟨mod, hm⟩ := Option.isSome_iff_exists.mp ha.1
  obtain ⟨u, hu, hcalls⟩ := sendPayload_call message hm ha hp
  exact ⟨_, u, mod, p, hu, hm, (jtoCMessageParams_ok hp).1, hcalls⟩

/-- Any other makes no host call. -/
theorem sendPayload_refused {info : CallInfo} {message : CString} {w u : World} {r : JsVal} (ha : ¬Addressed info w)
    (h : sendPayload P info message w = .ok (r, u)) : u.calls = w.calls := by
  unfold sendPayload at h
  cases hm : info.mod with
  | none => rw [hm] at h; cases h; rfl
  | some mod =>
    rw [hm] at h
    obtain ⟨p, v, hp, h⟩ := bind_ok.mp h
    have hv := (jtoCMessageParams_reads info.this).quiet hp
    have hz := not_not.mp fun hz => ha ((addressed_iff (by simp [hm]) hp).mpr hz)
    rw [if_pos hz] at h
    exact (hv.trans (invalidMessage_quiet h)).calls

/-! ## `MessageCallback` -/

theorem messageCallback_sent {info : CallInfo} {w : World} {m : JsVal} (hm : w.get info.this MESSAGE_MESSAGE = some m)
    (hs : (getJsMessageType m).sent) : messageCallback P info w = match payloadString P m w with
      | some s => sendPayload P info (.ofBytes (P.utf8Value s)) { w with live := .str :: w.live }
      | none => .error .toLocalChecked := by
  have hp := messagePayload_eq (P := P) (w := w) hs
  unfold messageCallback
  rw [get_bind, hm, bind_eq (toLocalChecked_some m w)]
  cases ht : getJsMessageType m with
  | array => rw [ht] at hs; cases hs
  | invalid => rw [ht] at hs; cases hs
  | _ =>
    rw [ht] at hp
    cases hj : payloadString P m w with
    | none => rw [hj] at hp; exact bind_error hp
    | some s => rw [hj] at hp; exact bind_eq hp

theorem messageCallback_unsent {info : CallInfo} {w : World} {m : JsVal}
    (hm : w.get info.this MESSAGE_MESSAGE = some m) (hs : ¬(getJsMessageType m).sent) : messageCallback P info w =
      if getJsMessageType m = .invalid then invalidMessage P info "Invalid: message" w else .ok (.undefined, w) := by
  unfold messageCallback
  rw [get_bind, hm, bind_eq (toLocalChecked_some m w)]
  cases ht : getJsMessageType m with
  | array => rfl
  | invalid => rfl
  | _ => simp [ht, JsMessageType.sent] at hs

/-- The lookups and the conversion `MessageCallback` makes of its receiver succeed. -/
def SendReturns (P : Platform) (info : CallInfo) (w : World) : Prop :=
  ∃ m, w.get info.this MESSAGE_MESSAGE = some m ∧ ((getJsMessageType m).sent →
    (getJsMessageType m = .object → (P.stringify m w).isSome) ∧
    (info.mod.isSome → ∀ k ∈ paramKeys, (w.get info.this k).isSome))

theorem messageCallback_reads {info : CallInfo} {w : World} {r : JsVal × World}
    (h : messageCallback P info w = .ok r) : SendReturns P info w := by
  cases hm : w.get info.this MESSAGE_MESSAGE with
  | none =>
    unfold messageCallback at h
    rw [get_bind, hm] at h
    cases h
  | some m =>
    refine ⟨m, hm, fun hs => ?_⟩
    rw [messageCallback_sent hm hs] at h
    rw [← payloadString_isSome hs]
    cases hp : payloadString P m w with
    | none => rw [hp] at h; cases h
    | some s =>
      rw [hp] at h
      exact ⟨rfl, sendPayload_reads (w := { w with live := .str :: w.live }) h⟩

/-- The text of the error the function reports. -/
def Native.Complains (info : CallInfo) (w : World) (cb : Native) (message : String) : Prop :=
  match cb with
  | .logCallback => info.args = [] ∧ message = "Syntax Error: Bad Parameters"
  | .messageCallback => ∃ m, w.get info.this MESSAGE_MESSAGE = some m ∧
      ((getJsMessageType m = .invalid ∧ message = "Invalid: message") ∨
        ((getJsMessageType m).sent ∧ info.mod.isSome ∧ ¬Addressed info w ∧ message = "Invalid params"))
  | .httpCallback => (info.isConstructCall ∧ message = "Error: Bad call to class method") ∨
      (¬info.isConstructCall ∧ (∃ f, w.get info.this HTTP_ONDATA = some f ∧ ¬f.isFunction) ∧ message = "Bad function")
  | .enableReadReceiptCallback | .enableDeliveryReceiptCallback | .enablePresenceCallback | .sendIfOnlineCallback =>
    ¬(info.arg 0).isBoolean ∧ message = "Bad Parameters"
  | _ => False

/-- An error, if there is one to report, can be: `Data()` is not undefined. -/
def Native.CanReport (info : CallInfo) (w : World) (cb : Native) : Prop :=
  info.data = .undefined → ∀ message, ¬cb.Complains info w message

/-- A function that is registered with a module can report any error. -/
theorem Native.canReport_of_data {info : CallInfo} (h : info.data ≠ .undefined) (w : World) (cb : Native) :
    cb.CanReport info w := fun hd => absurd hd h

theorem messageCallback_returns (hn : P.ShortNames) (info : CallInfo) (w : World) :
    (∃ r, messageCallback P info w = .ok r) ↔ SendReturns P info w ∧ Native.messageCallback.CanReport info w := by
  constructor
  · intro h
    obtain ⟨r, h⟩ := h
    refine ⟨messageCallback_reads h, fun hd message hc => ?_⟩
    obtain ⟨m, hm, ⟨hi, -⟩ | ⟨-, hmod, -⟩⟩ := hc
    · have hs : ¬(getJsMessageType m).sent := by simp [hi, JsMessageType.sent]
      rw [messageCallback_unsent hm hs, if_pos hi, invalidMessage_undefined hd] at h
      cases h
    · simp [CallInfo.mod, hd] at hmod
  · intro h
    obtain ⟨⟨m, hm, hread⟩, hc⟩ := h
    by_cases hs : (getJsMessageType m).sent
    · obtain ⟨hj, hk⟩ := hread hs
      obtain ⟨s, hp⟩ := Option.isSome_iff_exists.mp ((payloadString_isSome hs w).mpr hj)
      rw [messageCallback_sent hm hs, hp]
      exact sendPayload_returns (w := { w with live := .str :: w.live }) hn hk _
    · rw [messageCallback_unsent hm hs]
      split
      · rename_i hi
        exact invalidMessage_returns hn (fun hd => hc hd _ ⟨m, hm, .inl ⟨hi, rfl⟩⟩) (by decide) w
      · exact ⟨_, rfl⟩

/-- The receiver has a message of a type that is sent, and is addressed. -/
def SendReaches (info : CallInfo) (w : World) : Prop :=
  (∃ m, w.get info.this MESSAGE_MESSAGE = some m ∧ (getJsMessageType m).sent) ∧ Addressed info w

/-- What `send` reads and sends. -/
theorem SendReaches.payload {info : CallInfo} {w : World} (h : SendReaches info w) (hr : SendReturns P info w) :
    ∃ m s, w.get info.this MESSAGE_MESSAGE = some m ∧ (getJsMessageType m).sent ∧ payloadString P m w = some s ∧
      ∀ k ∈ paramKeys, (w.get info.this k).isSome := by
  obtain ⟨⟨m, hm, hs⟩, ha⟩ := h
  obtain ⟨m', hm', hread⟩ := hr
  cases hm.symm.trans hm'
  obtain ⟨hj, hk⟩ := hread hs
  obtain ⟨s, hp⟩ := Option.isSome_iff_exists.mp ((payloadString_isSome hs w).mpr hj)
  exact ⟨m, s, hm, hs, hp, hk ha.1⟩

theorem messageCallback_reached {info : CallInfo} {w : World} (hr : SendReturns P info w) (h : SendReaches info w) :
    ∃ r u mod p message len, messageCallback P info w = .ok (r, u) ∧ info.mod = some mod ∧
      p.ints = w.intParams info.this ∧ u.calls = w.calls ++ [.mesiboMessage mod p message len] := by
  obtain ⟨m, s, hm, hs, hp, hk⟩ := h.payload hr
  rw [messageCallback_sent hm hs, hp]
  obtain ⟨r, u, mod, p, hu, hmod, hints, hcalls⟩ := sendPayload_sends (P := P) (.ofBytes (P.utf8Value s))
    (w := { w with live := .str :: w.live }) h.2 hk
  exact ⟨r, u, mod, p, _, _, hu, hmod, hints, hcalls⟩

theorem messageCallback_refused {info : CallInfo} {w u : World} {r : JsVal} (hr : ¬SendReaches info w)
    (h : messageCallback P info w = .ok (r, u)) : u.calls = w.calls := by
  obtain ⟨m, hm, -⟩ := messageCallback_reads h
  by_cases hs : (getJsMessageType m).sent
  · rw [messageCallback_sent hm hs] at h
    cases hp : payloadString P m w with
    | none => rw [hp] at h; cases h
    | some s =>
      rw [hp] at h
      exact sendPayload_refused (w := { w with live := .str :: w.live }) (fun ha => hr ⟨⟨m, hm, hs⟩, ha⟩) h
  · rw [messageCallback_unsent hm hs] at h
    split at h
    · exact (invalidMessage_quiet h).calls
    · cases h; rfl

end MesiboV8
