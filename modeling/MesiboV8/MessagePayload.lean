/-
  MesiboV8.MessagePayload — the bytes a message is sent as.

  The text of a message is its string, the decimal form of its int32 or the JSON of its
  object. It goes through `strdup` and `strlen`, so what the host gets is the encoding of
  the text up to its first U+0000 (`sendable_sent`); of a `Uint8Array` it gets nothing. It
  gets all of the text, and of different texts different bytes, exactly where neither is
  the case (`payloads_faithful_iff`).
-/

import MesiboV8.MessageCodec
import MesiboV8.MessageOutcome

namespace MesiboV8

open Lib.Bytes Lib.Utf Lib.Effects Act

variable {P : Platform}

/-! ## Texts -/

/-- Integers are shown in decimal. -/
def Platform.Decimal (P : Platform) : Prop :=
  ∀ n : Int, -2 ^ 31 ≤ n → n < 2 ^ 31 → P.numberToString (.int n) = jsLiteral n.repr

/-- The text of a message: the decimal form of an int32, a well-formed string, or the JSON
    of an object. -/
inductive MessageText (P : Platform) (w : World) : JsVal → List Char → Prop
  | int32 (n : Int) : -2 ^ 31 ≤ n → n < 2 ^ 31 → MessageText P w (.num (.int n)) n.repr.toList
  | string (cs : List Char) : MessageText P w (.str (utf16 cs)) cs
  | object (m : JsVal) (cs : List Char) : m.isObject → P.stringify m w = some (utf16 cs) → MessageText P w m cs

theorem getJsMessageType_isObject {m : JsVal} (h : m.isObject) :
    getJsMessageType m = if m.isUint8Array then .array else .object := by
  cases m <;> first | rfl | cases h

theorem MessageText.payload (hd : P.Decimal) {w : World} {m : JsVal} {cs : List Char} (h : MessageText P w m cs)
    (ha : m.isUint8Array = false) : (getJsMessageType m).sent ∧ payloadString P m w = some (utf16 cs) := by
  cases h with
  | int32 n h₁ h₂ =>
    have ht : getJsMessageType (.num (.int n)) = .integer := by
      rw [getJsMessageType, if_pos]
      simp only [JsVal.isInt32, Bool.and_eq_true, decide_eq_true_eq]
      exact ⟨h₁, h₂⟩
    rw [payloadString, ht]
    exact ⟨rfl, congrArg some (hd n h₁ h₂)⟩
  | string => exact ⟨rfl, rfl⟩
  | object _ _ ho hj =>
    rw [payloadString, getJsMessageType_isObject ho, ha]
    exact ⟨rfl, hj⟩

/-- A receiver with the message `m`, whose text is `cs`, and valid parameters. -/
structure Sendable (P : Platform) (info : CallInfo) (w : World) (m : JsVal) (cs : List Char) : Prop where
  message : w.get info.this MESSAGE_MESSAGE = some m
  text : MessageText P w m cs
  addressed : Addressed info w
  params : ∀ k ∈ paramKeys, (w.get info.this k).isSome

/-! ## Bytes -/

/-- `send` asks the host once, with these bytes and this length. -/
def SentAs (P : Platform) (info : CallInfo) (w : World) (message : CString) (len : Int64) : Prop :=
  ∃ r u mod p, messageCallback P info w = .ok (r, u) ∧ u.calls = w.calls ++ [.mesiboMessage mod p message len]

theorem SentAs.unique {info : CallInfo} {w : World} {message message' : CString} {len len' : Int64}
    (h : SentAs P info w message len) (h' : SentAs P info w message' len') : message = message' ∧ len = len' := by
  obtain ⟨r, u, mod, p, hc, hcalls⟩ := h
  obtain ⟨r', u', mod', p', hc', hcalls'⟩ := h'
  cases hc.symm.trans hc'
  cases List.append_cancel_left (hcalls.symm.trans hcalls')
  exact ⟨rfl, rfl⟩

section Texts

variable {info : CallInfo} {w : World} {m : JsVal} {cs : List Char}

/-- A message is sent as the encoding of its text up to the first NUL. -/
theorem sendable_sent (hU : P.Encodes) (hd : P.Decimal) (h : Sendable P info w m cs) (ha : m.isUint8Array = false) :
    SentAs P info w (.ofBytes (utf8 cs)) (.ofNat (cstr (utf8 cs)).length) := by
  obtain ⟨hs, hp⟩ := h.text.payload hd ha
  rw [SentAs, messageCallback_sent h.message hs, hp, ← hU cs]
  obtain ⟨r, u, mod, p, hu, -, -, hcalls⟩ := sendPayload_sends (P := P) (.ofBytes (P.utf8Value (utf16 cs)))
    (w := { w with live := .str :: w.live }) h.addressed h.params
  exact ⟨r, u, mod, p, hu, hcalls⟩

theorem array_unsent (h : Sendable P info w m cs) (ha : m.isUint8Array) (message : CString) (len : Int64) :
    ¬SentAs P info w message len := by
  have ht : getJsMessageType m = .array := by cases m <;> first | rfl | cases ha
  intro hs
  obtain ⟨r, u, mod, p, hc, hcalls⟩ := hs
  rw [messageCallback_unsent h.message (by rw [ht]; decide), if_neg (by rw [ht]; decide)] at hc
  cases hc
  simp at hcalls

/-- A message is sent as its text. -/
def SentWhole (P : Platform) (info : CallInfo) (w : World) (cs : List Char) : Prop :=
  ∃ message, SentAs P info w message (.ofNat (utf8 cs).length) ∧ message.bytes = utf8 cs

/-- Not a `Uint8Array`, and no NUL in its text. -/
def Plainly (m : JsVal) (cs : List Char) : Prop := m.isUint8Array = false ∧ '\x00' ∉ cs

theorem sentWhole_iff (hU : P.Encodes) (hd : P.Decimal) (h : Sendable P info w m cs) :
    SentWhole P info w cs ↔ Plainly m cs := by
  rw [Plainly, ← zero_mem_utf8_iff]
  constructor
  · intro hw
    obtain ⟨message, hs, hb⟩ := hw
    refine ⟨?_, hb ▸ message.noNul⟩
    rw [Bool.eq_false_iff]
    exact fun ha => array_unsent h ha _ _ hs
  · intro hp
    have hs := sendable_sent hU hd h hp.1
    rw [cstr_eq_self hp.2] at hs
    exact ⟨_, hs, cstr_eq_self hp.2⟩

end Texts

/-- Two messages are each sent as their text, and as different bytes if their texts differ. -/
structure PayloadsFaithful (P : Platform) (info info' : CallInfo) (w w' : World) (cs cs' : List Char) : Prop where
  first : SentWhole P info w cs
  second : SentWhole P info' w' cs'
  apart : cs ≠ cs' → ∀ message message' len len', SentAs P info w message len → SentAs P info' w' message' len' →
    message.bytes ≠ message'.bytes

/-- They are exactly if neither is a `Uint8Array` or has a U+0000 in its text. -/
theorem payloads_faithful_iff (hU : P.Encodes) (hd : P.Decimal) {info info' : CallInfo} {w w' : World} {m m' : JsVal}
    {cs cs' : List Char} (h : Sendable P info w m cs) (h' : Sendable P info' w' m' cs') :
    PayloadsFaithful P info info' w w' cs cs' ↔ Plainly m cs ∧ Plainly m' cs' := by
  constructor
  · intro hp
    exact ⟨(sentWhole_iff hU hd h).mp hp.first, (sentWhole_iff hU hd h').mp hp.second⟩
  · intro hp
    obtain ⟨h₁, h₂⟩ := hp
    obtain ⟨message₁, hs₁, hb₁⟩ := (sentWhole_iff hU hd h).mpr h₁
    obtain ⟨message₂, hs₂, hb₂⟩ := (sentWhole_iff hU hd h').mpr h₂
    refine ⟨⟨_, hs₁, hb₁⟩, ⟨_, hs₂, hb₂⟩, fun hne message message' len len' hs hs' he => ?_⟩
    rw [(hs.unique hs₁).1, (hs'.unique hs₂).1, hb₁, hb₂] at he
    exact hne (by rw [← utf8Decode_utf8 cs, he, utf8Decode_utf8])

/-- Two message objects, one with the string "é" and one with -7 to send. -/
def World.twoMessages : World :=
  { World.empty with heap := fun o k => if k ≠ MESSAGE_MESSAGE then .data (.num (.int 1))
      else if o = 0 then .data (.str (utf16 ['é'])) else .data (.num (.int (-7))) }

theorem twoMessages_sendable (o : ObjId) {m : JsVal} {cs : List Char} (hm : World.twoMessages.get o MESSAGE_MESSAGE = some m)
    (ht : MessageText .reference .twoMessages m cs) :
    Sendable .reference ⟨o, .external (some 0), [], false, 0⟩ .twoMessages m cs := by
  have get : ∀ k, k ≠ MESSAGE_MESSAGE → World.twoMessages.get o k = some (.num (.int 1)) := fun k hk => by
    simp [World.twoMessages, World.get, hk, Slot.get]
  refine ⟨hm, ht, ⟨rfl, fun k hk v hv => ?_⟩, fun k hk => ?_⟩
  · have hne : k ≠ MESSAGE_MESSAGE := fun e => absurd hk (by rw [e]; decide)
    cases (get k hne).symm.trans hv
    decide
  · have hne : k ≠ MESSAGE_MESSAGE := fun e => absurd hk (by rw [e]; decide)
    rw [get k hne]
    rfl

theorem payloads_faithful_iff_two : PayloadsFaithful .reference ⟨0, .external (some 0), [], false, 0⟩
    ⟨1, .external (some 0), [], false, 0⟩ .twoMessages .twoMessages ['é'] (-7 : Int).repr.toList :=
  (payloads_faithful_iff Platform.reference_utf8Inverse.encode (fun _ _ _ => rfl)
    (twoMessages_sendable 0 rfl (.string ['é'])) (twoMessages_sendable 1 rfl (.int32 (-7) (by decide) (by decide)))).mpr
    ⟨⟨rfl, by decide⟩, rfl, by decide⟩

/-- Every property of every object is the string "a", U+0000. -/
def World.withNul : World := { World.empty with heap := fun _ _ => .data (.str (utf16 ['a', '\x00'])) }

/-- The host gets no NUL. -/
theorem nul_cuts_message : ¬∀ (info info' : CallInfo) (w w' : World) (m m' : JsVal)
    (cs cs' : List Char), Sendable .reference info w m cs → Sendable .reference info' w' m' cs' →
      PayloadsFaithful .reference info info' w w' cs cs' := by
  intro h
  have hs : Sendable .reference ⟨0, .external (some 0), [], false, 0⟩ .withNul (.str (utf16 ['a', '\x00'])) ['a', '\x00'] := by
    refine ⟨rfl, .string _, ⟨rfl, fun k _ v hv => ?_⟩, fun _ _ => rfl⟩
    cases hv
    exact ⟨by decide, nofun⟩
  obtain ⟨message, -, hb⟩ := (h _ _ _ _ _ _ _ _ hs hs).first
  exact message.noNul (hb ▸ by decide)

end MesiboV8
