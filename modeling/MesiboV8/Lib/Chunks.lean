/-
  MesiboV8.Lib.Chunks — UTF-8 decoded piece by piece.

  A piece cut off a well-formed stream ends between two characters or inside one
  (`utf8_split`). What is left of a character at the end of a piece is decoded as one
  U+FFFD (`utf8Decode_truncated`), and each byte left of it at the start of the next as one
  more (`utf8Decode_tails`). So a cut inside a character shows, as characters too many at
  least, and the pieces decode to the stream exactly if each is well-formed
  (`chunks_decode_iff`).
-/

import MesiboV8.Lib.Utf
import Mathlib.Tactic.SplitIfs

namespace MesiboV8.Lib.Utf

/-! ## The bytes of a character -/

theorem isTail_iff {b : UInt8} : isTail b = true ↔ 0x80 ≤ b.toNat ∧ b.toNat ≤ 0xBF := by
  simp only [isTail, Bool.and_eq_true, decide_eq_true_eq, UInt8.le_iff_toNat_le]
  exact Iff.rfl

theorem secondOk_iff {a b : UInt8} : secondOk a b = true ↔
    (a.toNat = 0xE0 ∧ 0xA0 ≤ b.toNat ∧ b.toNat ≤ 0xBF) ∨ (a.toNat = 0xED ∧ 0x80 ≤ b.toNat ∧ b.toNat ≤ 0x9F) ∨
    (0xE1 ≤ a.toNat ∧ a.toNat ≤ 0xEF ∧ a.toNat ≠ 0xED ∧ isTail b) ∨ (a.toNat = 0xF0 ∧ 0x90 ≤ b.toNat ∧ b.toNat ≤ 0xBF) ∨
    (0xF1 ≤ a.toNat ∧ a.toNat ≤ 0xF3 ∧ isTail b) ∨ (a.toNat = 0xF4 ∧ 0x80 ≤ b.toNat ∧ b.toNat ≤ 0x8F) := by
  simp only [secondOk, beq_iff_eq, UInt8.le_iff_toNat_le, ← UInt8.toNat_inj, Bool.and_eq_true, decide_eq_true_eq,
    UInt8.reduceToNat]
  split_ifs <;> simp only [Bool.and_eq_true, decide_eq_true_eq, isTail_iff, false_iff] <;> omega

/-- A character is encoded as a lead byte and up to three tail bytes. -/
theorem encode_cases (c : Char) :
    (∃ a, String.utf8EncodeChar c = [a] ∧ a.toNat < 0x80) ∨
    (∃ a b, String.utf8EncodeChar c = [a, b] ∧ 0xC0 ≤ a.toNat ∧ isTail b) ∨
    (∃ a b d, String.utf8EncodeChar c = [a, b, d] ∧ 0xC0 ≤ a.toNat ∧ secondOk a b ∧ isTail b ∧ isTail d) ∨
    ∃ a b d e, String.utf8EncodeChar c = [a, b, d, e] ∧ 0xF0 ≤ a.toNat ∧ secondOk a b ∧ isTail b ∧ isTail d ∧ isTail e := by
  have hc := char_toNat_cases c
  have hv : c.val.toNat = c.toNat := rfl
  unfold String.utf8EncodeChar
  simp only [hv]
  by_cases h₁ : c.toNat ≤ 0x7f
  · refine .inl ⟨_, if_pos h₁, ?_⟩
    simp only [UInt8.toNat_ofNat']
    omega
  by_cases h₂ : c.toNat ≤ 0x7ff
  · refine .inr (.inl ⟨_, _, by rw [if_neg h₁, if_pos h₂], ?_⟩)
    simp only [isTail_iff, UInt8.toNat_ofNat']
    omega
  by_cases h₃ : c.toNat ≤ 0xffff
  · refine .inr (.inr (.inl ⟨_, _, _, by rw [if_neg h₁, if_neg h₂, if_pos h₃], ?_⟩))
    simp only [secondOk_iff, isTail_iff, UInt8.toNat_ofNat']
    omega
  · refine .inr (.inr (.inr ⟨_, _, _, _, by rw [if_neg h₁, if_neg h₂, if_neg h₃], ?_⟩))
    simp only [secondOk_iff, isTail_iff, UInt8.toNat_ofNat']
    omega

theorem isTail_of_mem_tail {c : Char} {x : UInt8} {r t : List UInt8} (h : String.utf8EncodeChar c = r ++ t) (hr : r ≠ [])
    (hx : x ∈ t) : isTail x := by
  cases r with
  | nil => exact absurd rfl hr
  | cons y r =>
    have hm : x ∈ r ++ t := List.mem_append_right _ hx
    rcases encode_cases c with ⟨a, e, -⟩ | ⟨a, b, e, -, hb⟩ | ⟨a, b, d, e, -, -, hb, hd⟩ | ⟨a, b, d, f, e, -, -, hb, hd, hf⟩ <;>
      rw [e, List.cons_append, List.cons.injEq] at h <;> rw [← h.2] at hm <;>
      simp only [List.mem_cons, List.not_mem_nil, or_false] at hm
    · exact hm ▸ hb
    · rcases hm with rfl | rfl <;> assumption
    · rcases hm with rfl | rfl | rfl <;> assumption

theorem not_isTail_lead {c : Char} {x : UInt8} {l : List UInt8} (h : String.utf8EncodeChar c = x :: l) : isTail x = false := by
  rw [Bool.eq_false_iff]
  intro ht
  rw [isTail_iff] at ht
  rcases encode_cases c with ⟨a, e, ha⟩ | ⟨a, b, e, ha, -⟩ | ⟨a, b, d, e, ha, -⟩ | ⟨a, b, d, f, e, ha, -⟩ <;>
    cases e.symm.trans h <;> omega

/-! ## Decoding -/

theorem badLen_pos (l : List UInt8) : 1 ≤ badLen l := by
  unfold badLen
  repeat' split
  all_goals omega

theorem decodeN_eq {n m : Nat} {l : List UInt8} (hn : l.length ≤ n) (hm : l.length ≤ m) : decodeN n l = decodeN m l := by
  induction n generalizing m l with
  | zero =>
    rw [List.eq_nil_of_length_eq_zero (by omega : l.length = 0)]
    cases m <;> rfl
  | succ n ih =>
    cases m with
    | zero => rw [List.eq_nil_of_length_eq_zero (by omega : l.length = 0)]; rfl
    | succ m =>
      have drop : ∀ k, 1 ≤ k → decodeN n (l.drop k) = decodeN m (l.drop k) := fun k hk =>
        ih (by rw [List.length_drop]; omega) (by rw [List.length_drop]; omega)
      rw [decodeN, decodeN]
      split
      · rfl
      · cases decodeChar? l with
        | none => exact congrArg _ (drop _ (badLen_pos l))
        | some c => exact congrArg _ (drop _ c.utf8Size_pos)

theorem utf8Decode_some {l : List UInt8} {c : Char} (h : decodeChar? l = some c) :
    utf8Decode l = c :: utf8Decode (l.drop c.utf8Size) := by
  have hc := c.utf8Size_pos
  have hl : l.length = (l.length - 1) + 1 := by
    have := congrArg List.length (encode_of_decodeChar? h)
    rw [List.length_append, String.length_utf8EncodeChar] at this
    omega
  have he : l.isEmpty = false := by
    cases l with
    | nil => simp at hl
    | cons x l => rfl
  rw [utf8Decode, hl, decodeN, he, h, if_neg (by simp)]
  exact congrArg _ (decodeN_eq (by rw [List.length_drop]; omega) (Nat.le_refl _))

theorem utf8Decode_none {x : UInt8} {l : List UInt8} (h : decodeChar? (x :: l) = none) :
    utf8Decode (x :: l) = replacement :: utf8Decode ((x :: l).drop (badLen (x :: l))) := by
  have hb := badLen_pos (x :: l)
  rw [utf8Decode, List.length_cons, decodeN, h, if_neg (by simp)]
  exact congrArg _ (decodeN_eq (by rw [List.length_drop, List.length_cons]; omega) (Nat.le_refl _))

theorem utf8Decode_append (cs : List Char) (l : List UInt8) : utf8Decode (utf8 cs ++ l) = cs ++ utf8Decode l := by
  induction cs with
  | nil => rfl
  | cons c cs ih =>
    rw [utf8_cons, List.append_assoc, utf8Decode_some (decodeChar?_encode c _),
      List.drop_left' (String.length_utf8EncodeChar c), ih, List.cons_append]

theorem decodeChar?_tail {x : UInt8} (l : List UInt8) (h : isTail x) : decodeChar? (x :: l) = none := by
  cases hd : decodeChar? (x :: l) with
  | none => rfl
  | some c =>
    have he := encode_of_decodeChar? hd
    cases hc : String.utf8EncodeChar c with
    | nil => exact absurd hc String.utf8EncodeChar_ne_nil
    | cons y m =>
      rw [hc, List.cons_append, List.cons.injEq] at he
      rw [he.1, not_isTail_lead hc] at h
      cases h

theorem badLen_tail {x : UInt8} (l : List UInt8) (hx : isTail x) : badLen (x :: l) = 1 := by
  have hno : ∀ b, secondOk x b = false := by
    intro b
    rw [Bool.eq_false_iff]
    intro h
    rw [isTail_iff] at hx
    rw [secondOk_iff] at h
    omega
  unfold badLen
  split <;> simp_all

/-- Tail bytes at the start are each decoded as one U+FFFD. -/
theorem utf8Decode_tails {t : List UInt8} (ht : ∀ x ∈ t, isTail x) (l : List UInt8) :
    utf8Decode (t ++ l) = List.replicate t.length replacement ++ utf8Decode l := by
  induction t with
  | nil => rfl
  | cons x t ih =>
    have hx : isTail x := ht x List.mem_cons_self
    rw [List.cons_append, utf8Decode_none (decodeChar?_tail _ hx), badLen_tail _ hx, List.drop_one, List.tail_cons,
      ih fun y hy => ht y (List.mem_cons_of_mem _ hy)]
    rfl

/-! ## Cuts -/

/-- The start of a character is not one. -/
theorem decodeChar?_truncated {c : Char} {r t : List UInt8} (h : String.utf8EncodeChar c = r ++ t) (ht : t ≠ []) :
    decodeChar? r = none := by
  cases hd : decodeChar? r with
  | none => rfl
  | some d =>
    have hr := encode_of_decodeChar? hd
    have hc : decodeChar? (String.utf8EncodeChar c) = some c := by
      have := decodeChar?_encode c []
      rwa [List.append_nil] at this
    rw [h, hr, List.append_assoc, decodeChar?_encode] at hc
    cases hc
    have hl := congrArg List.length h
    rw [hr, List.length_append, List.length_append] at hl
    exact absurd (List.eq_nil_of_length_eq_zero (by omega : t.length = 0)) ht

/-- It is one maximal malformed part. -/
theorem badLen_truncated {c : Char} {r t : List UInt8} (h : String.utf8EncodeChar c = r ++ t) (hr : r ≠ [])
    (ht : t ≠ []) : badLen r = r.length := by
  have len := congrArg List.length h
  have ht' : t.length ≠ 0 := fun e => ht (List.eq_nil_of_length_eq_zero e)
  rw [List.length_append] at len
  match r, hr with
  | [a], _ => rfl
  | [a, b], _ =>
    rcases encode_cases c with ⟨_, e, -⟩ | ⟨_, _, e, -⟩ | ⟨_, _, _, e, -, hs, -⟩ | ⟨_, _, _, _, e, -, hs, -⟩ <;>
      rw [e] at h len <;> simp_all [badLen]
  | [a, b, d], _ =>
    rcases encode_cases c with ⟨_, e, -⟩ | ⟨_, _, e, -⟩ | ⟨_, _, _, e, -⟩ | ⟨_, _, _, _, e, ha, hs, -, hd, -⟩ <;>
      rw [e] at h len <;> simp_all [badLen, UInt8.le_iff_toNat_le]
  | a :: b :: d :: f :: r, _ =>
    rcases encode_cases c with ⟨_, e, -⟩ | ⟨_, _, e, -⟩ | ⟨_, _, _, e, -⟩ | ⟨_, _, _, _, e, -⟩ <;>
      rw [e] at len <;> simp at len <;> omega

theorem utf8Decode_truncated {c : Char} {r t : List UInt8} (h : String.utf8EncodeChar c = r ++ t) (hr : r ≠ [])
    (ht : t ≠ []) : utf8Decode r = [replacement] := by
  have hb := badLen_truncated h hr ht
  cases r with
  | nil => exact absurd rfl hr
  | cons x r => rw [utf8Decode_none (decodeChar?_truncated h ht), hb, List.drop_length]; rfl

/-- A piece off the front of a well-formed stream ends between two characters or inside one. -/
theorem utf8_split {b l : List UInt8} {cs : List Char} (h : b ++ l = utf8 cs) : ∃ ds es, cs = ds ++ es ∧
    ((b = utf8 ds ∧ l = utf8 es) ∨ ∃ c fs r t, es = c :: fs ∧ String.utf8EncodeChar c = r ++ t ∧ r ≠ [] ∧ t ≠ [] ∧
      b = utf8 ds ++ r ∧ l = t ++ utf8 fs) := by
  induction cs generalizing b with
  | nil =>
    obtain ⟨rfl, rfl⟩ := List.append_eq_nil_iff.mp h
    exact ⟨[], [], rfl, .inl ⟨rfl, rfl⟩⟩
  | cons c cs ih =>
    rw [utf8_cons, List.append_eq_append_iff] at h
    rcases h with ⟨t, hc, rfl⟩ | ⟨m, rfl, hm⟩
    · by_cases hb : b = []
      · subst hb
        exact ⟨[], c :: cs, rfl, .inl ⟨rfl, by rw [utf8_cons, hc]; rfl⟩⟩
      by_cases ht : t = []
      · subst ht
        rw [List.append_nil] at hc
        exact ⟨[c], cs, rfl, .inl ⟨by rw [← hc]; simp [utf8], rfl⟩⟩
      · exact ⟨[], c :: cs, rfl, .inr ⟨c, cs, b, t, rfl, hc, hb, ht, rfl, rfl⟩⟩
    · obtain ⟨ds, es, rfl, ⟨rfl, rfl⟩ | ⟨d, fs, r, t, rfl, hd, hr, ht, rfl, rfl⟩⟩ := ih hm.symm
      · exact ⟨c :: ds, es, rfl, .inl ⟨rfl, rfl⟩⟩
      · exact ⟨c :: ds, d :: fs, rfl, .inr ⟨d, fs, r, t, rfl, hd, hr, ht, by rw [utf8_cons, List.append_assoc], rfl⟩⟩

/-! ## Pieces -/

/-- Pieces show at least the characters of the stream, and one for each tail byte before it. -/
theorem chunks_length {bs : List (List UInt8)} {t : List UInt8} {cs : List Char} (h : bs.flatten = t ++ utf8 cs)
    (ht : ∀ x ∈ t, isTail x) : t.length + cs.length ≤ (bs.flatMap utf8Decode).length := by
  induction bs generalizing t cs with
  | nil =>
    obtain ⟨rfl, hu⟩ := List.append_eq_nil_iff.mp h.symm
    cases cs with
    | nil => simp
    | cons c cs => simp [String.utf8EncodeChar_ne_nil] at hu
  | cons b bs ih =>
    rw [List.flatMap_cons, List.length_append]
    rcases List.append_eq_append_iff.mp h with ⟨t', rfl, hl⟩ | ⟨m, rfl, hm⟩
    · have hb := utf8Decode_tails (fun x hx => ht x (List.mem_append_left _ hx)) ([] : List UInt8)
      have := ih hl fun x hx => ht x (List.mem_append_right _ hx)
      rw [List.append_nil] at hb
      rw [hb]
      simp only [List.length_append, List.length_replicate]
      omega
    · rw [utf8Decode_tails ht, List.length_append, List.length_replicate]
      obtain ⟨ds, es, rfl, ⟨rfl, hl⟩ | ⟨c, fs, r, t', rfl, hc, hr, ht', rfl, hl⟩⟩ := utf8_split hm.symm
      · have := ih (t := []) hl (by simp)
        rw [utf8Decode_utf8]
        simp only [List.length_append, List.length_nil] at this ⊢
        omega
      · have := ih hl fun x hx => isTail_of_mem_tail hc hr hx
        have hpos := List.length_pos_of_ne_nil ht'
        rw [utf8Decode_append, utf8Decode_truncated hc hr ht']
        simp only [List.length_append, List.length_cons, List.length_nil]
        omega

/-- The pieces of a well-formed stream decode to it exactly if each is well-formed. -/
theorem chunks_decode_iff {bs : List (List UInt8)} {cs : List Char} (h : bs.flatten = utf8 cs) :
    bs.flatMap utf8Decode = cs ↔ ∀ b ∈ bs, ∃ ds, b = utf8 ds := by
  induction bs generalizing cs with
  | nil =>
    cases cs with
    | nil => simp
    | cons c cs => simp [String.utf8EncodeChar_ne_nil] at h
  | cons b bs ih =>
    rw [List.flatMap_cons, List.forall_mem_cons]
    obtain ⟨ds, es, rfl, ⟨rfl, hl⟩ | ⟨c, fs, r, t, rfl, hc, hr, ht, rfl, hl⟩⟩ := utf8_split h
    · rw [utf8Decode_utf8, List.append_cancel_left_eq, ih hl]
      exact ⟨fun hb => ⟨⟨ds, rfl⟩, hb⟩, fun hb => hb.2⟩
    · rw [utf8Decode_append, utf8Decode_truncated hc hr ht]
      constructor
      · intro he
        -- The rest shows more characters than are left.
        rw [List.append_assoc, List.append_cancel_left_eq, List.singleton_append, List.cons.injEq] at he
        have hlen := chunks_length hl fun x hx => isTail_of_mem_tail hc hr hx
        have hpos := List.length_pos_of_ne_nil ht
        rw [he.2] at hlen
        omega
      · intro hb
        obtain ⟨⟨es, he⟩, -⟩ := hb
        have hd : es = ds ++ [replacement] := by
          rw [← utf8Decode_utf8 es, ← he, utf8Decode_append, utf8Decode_truncated hc hr ht]
        have hrr : r = String.utf8EncodeChar replacement ++ [] := by
          rw [hd] at he
          simpa [utf8] using he
        have hn := decodeChar?_truncated hc ht
        rw [hrr, decodeChar?_encode] at hn
        cases hn

end MesiboV8.Lib.Utf
