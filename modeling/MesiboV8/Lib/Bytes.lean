/-
  MesiboV8.Lib.Bytes — fixed byte arrays, `memcpy` into them, and C strings.

  `Buf n` is an array of `n` bytes, `Mem` the readable memory at a pointer, `CString`
  what a `char*` points at up to its NUL. `Holds b l` says an array holds the bytes `l`
  from its start and zeros from there on (`Holds.bytes`); a `memcpy` into them is an
  `overlay` of the list (`holds_overlay`).
-/

import Mathlib.Data.List.GetD
import Mathlib.Data.List.OfFn
import Mathlib.Data.List.TakeWhile

namespace MesiboV8.Lib.Bytes

/-- The memory at a pointer: the byte at each offset. -/
abbrev Mem := Nat → UInt8

def Mem.read (m : Mem) (n : Nat) : List UInt8 := (List.range n).map m

/-- The memory a list of bytes is stored in, zero past its end. -/
def Mem.ofList (l : List UInt8) : Mem := fun i => l.getD i 0

/-- The bytes `l` copied to offset `off`. -/
def Mem.write (m : Mem) (off : Nat) (l : List UInt8) : Mem :=
  fun i => if off ≤ i ∧ i < off + l.length then l.getD (i - off) 0 else m i

abbrev Buf (n : Nat) := Fin n → UInt8

def Buf.zero (n : Nat) : Buf n := fun _ => 0

def Buf.bytes {n : Nat} (b : Buf n) : List UInt8 := List.ofFn b

/-- `len` bytes of `src` copied to offset `off`. -/
def Buf.write {n : Nat} (b : Buf n) (off : Nat) (src : Mem) (len : Nat) : Buf n :=
  fun i => if off ≤ i.val ∧ i.val < off + len then src (i.val - off) else b i

/-- The bytes before the first NUL: what `strlen`, `strdup` and `%s` see. -/
def cstr (l : List UInt8) : List UInt8 := l.takeWhile (· != 0)

structure CString where
  bytes : List UInt8
  noNul : (0 : UInt8) ∉ bytes
  deriving DecidableEq

/-! ## C strings -/

theorem cstr_noNul (l : List UInt8) : (0 : UInt8) ∉ cstr l := by
  intro h
  simpa using List.mem_takeWhile_imp h

/-- The string a reader of `l` (followed by a NUL) finds. -/
def CString.ofBytes (l : List UInt8) : CString := ⟨cstr l, cstr_noNul l⟩

@[simp] theorem CString.ofBytes_bytes (l : List UInt8) : (CString.ofBytes l).bytes = cstr l := rfl

theorem CString.ext_bytes {s t : CString} (h : s.bytes = t.bytes) : s = t := by
  cases s; cases t; simp_all

theorem cstr_eq_self {l : List UInt8} (h : (0 : UInt8) ∉ l) : cstr l = l := by
  rw [cstr, List.takeWhile_eq_self_iff]
  intro b hb
  have : b ≠ 0 := fun e => h (e ▸ hb)
  simpa using this

@[simp] theorem CString.cstr_bytes (s : CString) : cstr s.bytes = s.bytes := cstr_eq_self s.noNul

@[simp] theorem CString.ofBytes_self (s : CString) : CString.ofBytes s.bytes = s :=
  CString.ext_bytes s.cstr_bytes

theorem cstr_append_nul (l r : List UInt8) : cstr (l ++ 0 :: r) = cstr l := by
  induction l with
  | nil => rfl
  | cons b l ih =>
    simp only [cstr, List.cons_append, List.takeWhile_cons] at ih ⊢
    split
    · rw [ih]
    · rfl

theorem cstr_length_le (l : List UInt8) : (cstr l).length ≤ l.length :=
  (List.takeWhile_sublist _).length_le

/-! ## Memory -/

@[simp] theorem Mem.read_length (m : Mem) (n : Nat) : (m.read n).length = n := by simp [Mem.read]

theorem Mem.read_getD (m : Mem) {n i : Nat} (h : i < n) : (m.read n).getD i 0 = m i := by
  simp [Mem.read, List.getD_eq_getElem?_getD, List.getElem?_map, List.getElem?_range h]

@[simp] theorem Mem.read_ofList (l : List UInt8) : (Mem.ofList l).read l.length = l := by
  apply List.ext_getElem (by simp)
  intro i h1 h2
  simp [Mem.read, Mem.ofList, h2]

theorem Mem.read_add (m : Mem) (n k : Nat) : m.read (n + k) = m.read n ++ (List.range k).map fun i => m (n + i) := by
  rw [Mem.read, List.range_add, List.map_append, List.map_map]
  rfl

theorem Mem.read_take (m : Mem) {n k : Nat} (h : k ≤ n) : (m.read n).take k = m.read k := by
  obtain ⟨r, rfl⟩ := Nat.exists_eq_add_of_le h
  rw [Mem.read_add]
  exact List.take_left' (m.read_length k)

/-- The string in a memory with a NUL at `n`. -/
theorem Mem.cstr_read {m : Mem} {n : Nat} (h : m n = 0) (k : Nat) : cstr (m.read k) = cstr ((m.read n).take k) := by
  by_cases hk : k ≤ n
  · rw [Mem.read_take m hk]
  · obtain ⟨r, rfl⟩ : ∃ r, k = n + (r + 1) := ⟨k - n - 1, by omega⟩
    rw [Mem.read_add, List.range_succ_eq_map, List.map_cons, Nat.add_zero, h, cstr_append_nul,
      List.take_of_length_le (by rw [Mem.read_length]; omega)]

theorem Mem.write_above (m : Mem) {off i : Nat} {l : List UInt8} (h : off + l.length ≤ i) : m.write off l i = m i :=
  if_neg (by omega)

/-- Bytes written right behind those read are read behind them. -/
theorem Mem.read_write (m : Mem) (n : Nat) (l : List UInt8) : (m.write n l).read (n + l.length) = m.read n ++ l := by
  have hlow : (m.write n l).read n = m.read n := by
    refine List.map_congr_left fun i hi => ?_
    have := List.mem_range.mp hi
    exact if_neg (by omega)
  have hhigh : (List.range l.length).map (fun i => m.write n l (n + i)) = l := by
    apply List.ext_getElem (by simp)
    intro i h1 h2
    simp [Mem.write, h2]
  rw [Mem.read_add, hlow, hhigh]

/-! ## Arrays filled from their start -/

@[simp] theorem Buf.write_zero {n : Nat} (b : Buf n) (off : Nat) (src : Mem) : b.write off src 0 = b := by
  funext i
  exact if_neg (by omega)

@[simp] theorem Buf.bytes_length {n : Nat} (b : Buf n) : b.bytes.length = n := by simp [Buf.bytes]

/-- The array's first bytes are `l`, the rest are zero. -/
structure Holds {n : Nat} (b : Buf n) (l : List UInt8) : Prop where
  fits : l.length ≤ n
  eq : ∀ i : Fin n, b i = l.getD i.val 0

theorem holds_zero (n : Nat) : Holds (Buf.zero n) [] := ⟨Nat.zero_le _, fun _ => rfl⟩

/-- `m` written over `l` at `off`, no further than its end. -/
def overlay (l : List UInt8) (off : Nat) (m : List UInt8) : List UInt8 :=
  l.take off ++ m ++ l.drop (off + m.length)

@[simp] theorem overlay_length_self (l m : List UInt8) : overlay l l.length m = l ++ m := by
  rw [overlay, List.take_length, List.drop_eq_nil_of_le (by omega), List.append_nil]

@[simp] theorem overlay_nil (l : List UInt8) (off : Nat) : overlay l off [] = l := by simp [overlay]

theorem overlay_length {l : List UInt8} {off : Nat} (m : List UInt8) (h : off ≤ l.length) :
    (overlay l off m).length = max l.length (off + m.length) := by
  simp only [overlay, List.length_append, List.length_take, List.length_drop]
  omega

theorem overlay_getD {l : List UInt8} {off : Nat} (m : List UInt8) (h : off ≤ l.length) (i : Nat) :
    (overlay l off m).getD i 0 = if off ≤ i ∧ i < off + m.length then m.getD (i - off) 0 else l.getD i 0 := by
  have ht : (l.take off).length = off := by rw [List.length_take]; omega
  by_cases h₁ : i < off
  · rw [if_neg (by omega), overlay, List.append_assoc, List.getD_append _ _ _ _ (by omega)]
    simp [List.getD_eq_getElem?_getD, h₁]
  · rw [overlay, List.append_assoc, List.getD_append_right _ _ _ _ (by omega), ht]
    by_cases h₂ : i < off + m.length
    · rw [if_pos ⟨by omega, h₂⟩, List.getD_append _ _ _ _ (by omega)]
    · rw [if_neg (by omega), List.getD_append_right _ _ _ _ (by omega)]
      simp only [List.getD_eq_getElem?_getD, List.getElem?_drop]
      congr 2
      omega

theorem holds_overlay {n : Nat} {b : Buf n} {l : List UInt8} (h : Holds b l) (src : Mem) {off len : Nat}
    (ho : off ≤ l.length) (hn : off + len ≤ n) : Holds (b.write off src len) (overlay l off (src.read len)) := by
  have hf := h.fits
  refine ⟨by rw [overlay_length _ ho, Mem.read_length]; omega, fun i => ?_⟩
  rw [overlay_getD _ ho, Mem.read_length, Buf.write]
  split
  · rw [Mem.read_getD src (by omega)]
  · exact h.eq i

/-- What is written right behind the bytes held is held behind them. -/
theorem Holds.append {n : Nat} {b : Buf n} {l : List UInt8} (h : Holds b l) (src : Mem) {len : Nat}
    (hn : l.length + len ≤ n) : Holds (b.write l.length src len) (l ++ src.read len) := by
  have hw := holds_overlay h src (Nat.le_refl _) hn
  rwa [overlay_length_self] at hw

theorem Holds.bytes {n : Nat} {b : Buf n} {l : List UInt8} (h : Holds b l) :
    b.bytes = l ++ List.replicate (n - l.length) 0 := by
  have hf := h.fits
  apply List.ext_getElem (by simp [Buf.bytes]; omega)
  intro i h1 h2
  simp only [Buf.bytes, List.getElem_ofFn, h.eq, List.getElem_append, List.getElem_replicate]
  split
  · rw [List.getD_eq_getElem]
  · rw [List.getD_eq_default]; omega

theorem noNul_overlay {l m : List UInt8} (hl : (0 : UInt8) ∉ l) (hm : (0 : UInt8) ∉ m) (off : Nat) :
    (0 : UInt8) ∉ overlay l off m := by
  intro h
  simp only [overlay, List.mem_append] at h
  rcases h with (h | h) | h
  · exact hl (List.mem_of_mem_take h)
  · exact hm h
  · exact hl (List.mem_of_mem_drop h)

/-- Holding `l`, told from the array's bytes. -/
theorem holds_iff_take {n : Nat} {b : Buf n} {l : List UInt8} :
    Holds b l ↔ b.bytes.take l.length = l ∧ ∀ i : Fin n, l.length ≤ i.val → b i = 0 := by
  constructor
  · intro h
    refine ⟨by rw [h.bytes, List.take_left], fun i hi => ?_⟩
    rw [h.eq, List.getD_eq_default _ _ hi]
  · intro h
    obtain ⟨htake, hzero⟩ := h
    have hlen := congrArg List.length htake
    rw [List.length_take, Buf.bytes_length] at hlen
    refine ⟨by omega, fun i => ?_⟩
    by_cases hi : l.length ≤ i.val
    · rw [hzero i hi, List.getD_eq_default _ _ hi]
    · have hget : (b.bytes.take l.length).getD i.val 0 = b i := by
        rw [List.getD_eq_getElem _ _ (by rw [List.length_take, Buf.bytes_length]; omega)]
        simp [Buf.bytes]
      rw [← hget, htake]

end MesiboV8.Lib.Bytes
