/-
  MesiboV8.ReadFile — `ReadFile` over what stdio does to it.

  A `FileRun` is one such run: what `fopen`, `ftell`, `new` and each `fread` come to. The
  loop of `ReadFile` goes on until it has `size` bytes or an `fread` reports an error
  (`readStep`); over it the array holds what was read, in order (`Reading`). So it ends
  exactly if an error comes or the bytes do (`reading_exits_iff`), the array is overrun
  only when `ftell` failed, and the string is made of all that was read unless the size
  does not fit V8's int (`reads_faithfully_iff`).
-/

import MesiboV8.System
import MesiboV8.Lib.Loops

namespace MesiboV8

open Lib.Bytes Lib.Loops

variable {P : Platform}

/-! ## What stdio does -/

/-- What an `fread` finds, of which it gets no more than it was asked for, and whether
    `ferror` is set after it. -/
structure FRead where
  bytes : List UInt8
  error : Bool
  deriving DecidableEq

structure FileRun where
  opens : Bool
  ftell : Int64
  /-- -1, or a size. -/
  ftell_ge : -1 ≤ ftell
  /-- How much `new` can give. -/
  memory : Nat
  /-- What is in the array it gives. -/
  junk : Mem
  fread : Nat → FRead

/-- Why a process ends. -/
inductive Abort where
  | fault (f : Fault)
  /-- An exception of `new` that nobody catches. -/
  | badAlloc
  deriving DecidableEq, Repr

namespace FileRun

/-- `size_t size = ftell(file)`. -/
def size (f : FileRun) : Nat := f.ftell.toUInt64.toNat

/-- `size + 1`, in a `size_t`. -/
def capacity (f : FileRun) : Nat := (f.ftell.toUInt64 + 1).toNat

/-- What the first `n` `fread`s find. -/
def supplied (f : FileRun) (n : Nat) : List UInt8 := (List.range n).flatMap fun k => (f.fread k).bytes

end FileRun

/-! ## `ReadFile` -/

/-- `read` is not in the source: the bytes the `fread`s got. -/
structure ReadState where
  i : Nat
  chars : Mem
  calls : Nat
  read : List UInt8

/-- A turn of the loop. It leaves with the array when that is full and with nothing on an
    error; an `fread` past the end of the array ends the process. -/
def readStep (f : FileRun) (s : ReadState) : ReadState ⊕ Except Abort (Option ReadState) :=
  if s.i < f.size then
    let got := (f.fread s.calls).bytes.take (f.size - s.i)
    if f.capacity < s.i + got.length then .inr (.error (.fault .outOfBounds))
    else if (f.fread s.calls).error then .inr (.ok none)
    else .inl ⟨s.i + got.length, s.chars.write s.i got, s.calls + 1, s.read ++ got⟩
  else .inr (.ok (some s))

/-- The array with its NUL, before the loop. -/
def FileRun.start (f : FileRun) : ReadState := ⟨0, f.junk.write f.size [0], 0, []⟩

/-- `ReadFile` up to its conversion; `none`: it is still in the loop. -/
def readChars (f : FileRun) (fuel : Nat) : Option (Except Abort (Option ReadState)) :=
  if !f.opens then some (.ok none)
  else if f.memory < f.capacity then some (.error .badAlloc)
  -- chars.get()[size] = '\0'
  else if f.capacity ≤ f.size then some (.error (.fault .outOfBounds))
  else loop (readStep f) fuel f.start

variable (P) in
/-- `ReadFile` on a file: a string, or empty. -/
def readFileRun (f : FileRun) (fuel : Nat) : Option (Except Abort (Option JsString)) :=
  match readChars f fuel with
  | none => none
  | some (.error e) => some (.error e)
  | some (.ok none) => some (.ok none)
  | some (.ok (some s)) => some (.ok (newFromUtf8Len P s.chars f.ftell))

/-! ## The size -/

section Size

variable {f : FileRun}

theorem size_failed (h : f.ftell = -1) : f.capacity ≤ f.size := by
  rw [FileRun.capacity, FileRun.size, h]
  decide

theorem ftell_nonneg (h : f.ftell ≠ -1) : 0 ≤ f.ftell.toInt := by
  have hge := Int64.le_iff_toInt_le.mp f.ftell_ge
  have hne : f.ftell.toInt ≠ (-1 : Int64).toInt := fun e => h (Int64.toInt_inj.mp e)
  have h1 : (-1 : Int64).toInt = -1 := rfl
  omega

theorem size_eq (h : f.ftell ≠ -1) : (f.size : Int) = f.ftell.toInt := by
  have h0 := ftell_nonneg h
  have hx : (0 : Int64) ≤ f.ftell := Int64.le_iff_toInt_le.mpr (by simpa using h0)
  rw [FileRun.size, Int64.toNat_toUInt64_of_le hx]
  exact Int.toNat_of_nonneg h0

/-- The array is one longer than the file, and nothing wraps. -/
theorem capacity_eq (h : f.ftell ≠ -1) : f.capacity = f.size + 1 := by
  have hs := size_eq h
  have hlt := f.ftell.toInt_lt
  have hc : f.capacity = (f.size + 1) % 2 ^ 64 := by
    rw [FileRun.capacity, FileRun.size, UInt64.toNat_add]
    rfl
  rw [hc]
  omega

end Size

/-! ## The loop -/

/-- What holds while `f` is being read: the array has what the `fread`s got, in order, and
    its NUL, and none of them reported an error. -/
structure Reading (f : FileRun) (s : ReadState) : Prop where
  i : s.i = s.read.length
  read : s.read = (f.supplied s.calls).take f.size
  chars : s.chars.read s.i = s.read
  nul : s.chars f.size = 0
  quiet : ∀ k < s.calls, (f.fread k).error = false

section Loop

variable {f : FileRun} {s t : ReadState} {r : Except Abort (Option ReadState)}

theorem supplied_succ (f : FileRun) (n : Nat) : f.supplied (n + 1) = f.supplied n ++ (f.fread n).bytes := by
  simp [FileRun.supplied, List.range_succ]

theorem supplied_mono (f : FileRun) {n m : Nat} (h : n ≤ m) : f.supplied n <+: f.supplied m := by
  induction m, h using Nat.le_induction with
  | base => exact List.prefix_refl _
  | succ m _ ih => exact ih.trans (supplied_succ f m ▸ List.prefix_append _ _)

theorem start_reading (f : FileRun) : Reading f f.start :=
  ⟨rfl, by simp [FileRun.start, FileRun.supplied], rfl, by simp [FileRun.start, Mem.write],
    fun _ h => absurd h (Nat.not_lt_zero _)⟩

theorem Reading.i_eq (h : Reading f s) : s.i = min f.size (f.supplied s.calls).length := by
  rw [h.i, h.read, List.length_take]

/-- One `fread`. -/
theorem readStep_next (h : Reading f s) (hs : readStep f s = .inl t) : Reading f t ∧ s.i < f.size ∧ t.calls = s.calls + 1 := by
  unfold readStep at hs
  by_cases hi : s.i < f.size
  · rw [if_pos hi] at hs
    dsimp only at hs
    split at hs
    · cases hs
    · split at hs
      · cases hs
      · rename_i hquiet
        cases hs
        refine ⟨⟨?_, ?_, ?_, ?_, ?_⟩, hi, rfl⟩
        · rw [List.length_append, h.i]
        · have hi' : s.i = (f.supplied s.calls).length := by
            have := h.i_eq
            omega
          dsimp only
          rw [supplied_succ, List.take_append, h.read, hi']
        · dsimp only
          rw [Mem.read_write, h.chars]
        · dsimp only
          rw [Mem.write_above _ (by rw [List.length_take]; omega), h.nul]
        · intro k hk
          rcases Nat.lt_succ_iff_lt_or_eq.mp hk with hk | rfl
          · exact h.quiet k hk
          · simpa using hquiet
  · rw [if_neg hi] at hs
    cases hs

/-- The ways out of the loop. -/
theorem readStep_exit (hcap : f.capacity = f.size + 1) (hs : readStep f s = .inr r) :
    (r = .ok none ∧ s.i < f.size ∧ (f.fread s.calls).error) ∨ (r = .ok (some s) ∧ f.size ≤ s.i) := by
  unfold readStep at hs
  by_cases hi : s.i < f.size
  · rw [if_pos hi] at hs
    dsimp only at hs
    split at hs
    · rename_i hover
      rw [List.length_take] at hover
      omega
    · split at hs
      · rename_i herror
        cases hs
        exact .inl ⟨rfl, hi, herror⟩
      · cases hs
  · rw [if_neg hi] at hs
    cases hs
    exact .inr ⟨rfl, Nat.le_of_not_lt hi⟩

/-- The first `n` `fread`s have the whole file, none of them in error. -/
def FileRun.CompleteAt (f : FileRun) (n : Nat) : Prop :=
  f.size ≤ (f.supplied n).length ∧ ∀ k < n, (f.fread k).error = false

/-- An error comes, or the bytes do. -/
def FileRun.Ends (f : FileRun) : Prop :=
  (∃ k, (f.fread k).error = true) ∨ ∃ n, f.size ≤ (f.supplied n).length

/-- What the loop leaves with. -/
theorem reading_exit (hcap : f.capacity = f.size + 1) (h : Exits (readStep f) f.start r) :
    (r = .ok none ∧ ∃ k, (f.fread k).error = true ∧ (f.supplied k).length < f.size ∧
      ∀ j < k, (f.fread j).error = false) ∨
    ∃ s, r = .ok (some s) ∧ Reading f s ∧ s.i = f.size ∧ f.CompleteAt s.calls := by
  obtain ⟨u, hu, hr⟩ := exits_inv (I := Reading f) (fun _ _ hs ht => (readStep_next hs ht).1) (start_reading f) h
  have hlen := hu.i_eq
  rcases readStep_exit hcap hr with ⟨rfl, hi, herror⟩ | ⟨rfl, hi⟩
  · exact .inl ⟨rfl, u.calls, herror, by omega, hu.quiet⟩
  · exact .inr ⟨u, rfl, hu, by omega, by omega, hu.quiet⟩

/-- With one `fread` that ends it in sight, each turn comes nearer to it. -/
theorem reading_exits_by {n : Nat} (h : (f.fread n).error = true ∨ f.size ≤ (f.supplied n).length) :
    ∃ r, Exits (readStep f) f.start r := by
  refine exits_of_measure (I := fun s => Reading f s ∧ s.calls ≤ n) (fun s => n - s.calls) ?_
    ⟨start_reading f, Nat.zero_le n⟩
  intro s t hs hst
  obtain ⟨hread, hle⟩ := hs
  obtain ⟨ht, hi, hcalls⟩ := readStep_next hread hst
  have hlt : s.calls < n := by
    by_contra hn
    obtain rfl : s.calls = n := by omega
    rcases h with herror | hsize
    · have hquiet := ht.quiet s.calls (by omega)
      rw [hquiet] at herror
      cases herror
    · have := hread.i_eq
      omega
  exact ⟨⟨ht, by omega⟩, by omega⟩

/-- The loop ends exactly if an error comes or the bytes do. -/
theorem reading_exits_iff (hcap : f.capacity = f.size + 1) : (∃ r, Exits (readStep f) f.start r) ↔ f.Ends := by
  constructor
  · intro hx
    obtain ⟨r, hr⟩ := hx
    rcases reading_exit hcap hr with ⟨-, k, hk, -⟩ | ⟨s, -, -, -, hsize, -⟩
    · exact .inl ⟨k, hk⟩
    · exact .inr ⟨s.calls, hsize⟩
  · intro h
    rcases h with ⟨k, hk⟩ | ⟨n, hn⟩
    · exact reading_exits_by (.inl hk)
    · exact reading_exits_by (.inr hn)

/-- Whatever number of `fread`s the whole file is taken from, it is the same. -/
theorem take_supplied {n m : Nat} (hn : f.size ≤ (f.supplied n).length) (hm : f.size ≤ (f.supplied m).length) :
    (f.supplied n).take f.size = (f.supplied m).take f.size := by
  rcases Nat.le_total n m with h | h
  · obtain ⟨r, hr⟩ := supplied_mono f h
    rw [← hr, List.take_append_of_le_length hn]
  · obtain ⟨r, hr⟩ := supplied_mono f h
    rw [← hr, List.take_append_of_le_length hm]

/-- It leaves with the file when that comes without an error. -/
theorem reading_complete (hcap : f.capacity = f.size + 1) {n : Nat} (h : f.CompleteAt n) :
    ∃ s, Exits (readStep f) f.start (.ok (some s)) ∧ Reading f s ∧ s.i = f.size ∧
      s.read = (f.supplied n).take f.size := by
  obtain ⟨r, hr⟩ := reading_exits_by (.inr h.1)
  rcases reading_exit hcap hr with ⟨rfl, k, herror, hshort, -⟩ | ⟨s, rfl, hread, hi, hcomplete⟩
  · have hlt : k < n := by
      by_contra hn
      have := (supplied_mono f (Nat.le_of_not_lt hn)).length_le
      have := h.1
      omega
    rw [h.2 k hlt] at herror
    cases herror
  · exact ⟨s, hr, hread, hi, hread.read.trans (take_supplied hcomplete.1 h.1)⟩

end Loop

/-! ## The array and its conversion -/

section Convert

variable {f : FileRun}

/-- What V8 takes of the content of an array, given the size of it as an int. -/
def v8Bytes (P : Platform) (len : Int64) (content : List UInt8) : List UInt8 :=
  if len.toInt32.toInt < 0 then cstr (content.take (P.kMaxLength + 1)) else content.take len.toInt32.toInt.toNat

theorem toInt32_le {x : Int64} (h : 0 ≤ x.toInt) : x.toInt32.toInt ≤ x.toInt := by
  rw [Int64.toInt_toInt32, Int.bmod_def]
  split <;> omega

theorem newFromUtf8Len_full (h : f.ftell ≠ -1) {s : ReadState} (hs : Reading f s) (hi : s.i = f.size) :
    newFromUtf8Len P s.chars f.ftell = P.newFromUtf8 (v8Bytes P f.ftell s.read) := by
  have hchars : s.chars.read f.size = s.read := hi ▸ hs.chars
  have hle := toInt32_le (ftell_nonneg h)
  have hsize := size_eq h
  rw [newFromUtf8Len, v8Bytes, ← hchars]
  split
  · rw [Mem.cstr_read hs.nul]
  · rw [Mem.read_take _ (by omega)]

theorem readChars_closed (h : f.opens = false) (fuel : Nat) : readChars f fuel = some (.ok none) := by
  rw [readChars, h]
  rfl

theorem readChars_noMemory (hopen : f.opens = true) (hmem : f.memory < f.capacity) (fuel : Nat) :
    readChars f fuel = some (.error .badAlloc) := by
  rw [readChars, hopen, if_neg (by decide), if_pos hmem]

theorem readChars_open (hopen : f.opens = true) (h : f.ftell ≠ -1) (hmem : f.capacity ≤ f.memory) (fuel : Nat) :
    readChars f fuel = loop (readStep f) fuel f.start := by
  have hcap := capacity_eq h
  rw [readChars, hopen, if_neg (by decide), if_neg (by omega), if_neg (by omega)]

/-- `ReadFile` that gets an array filled got it from the loop, on a file of a known size. -/
theorem readChars_full {fuel : Nat} {s : ReadState} (h : readChars f fuel = some (.ok (some s))) :
    f.opens = true ∧ f.ftell ≠ -1 ∧ f.capacity ≤ f.memory ∧ Reading f s ∧ s.i = f.size ∧ f.CompleteAt s.calls := by
  unfold readChars at h
  split at h
  · cases h
  · rename_i hopen
    split at h
    · cases h
    · rename_i hmem
      split at h
      · cases h
      · rename_i hcap
        have hne : f.ftell ≠ -1 := fun e => hcap (size_failed e)
        rcases reading_exit (capacity_eq hne) ⟨fuel, h⟩ with ⟨hn, -⟩ | ⟨u, hu, hread, hi, hcomplete⟩
        · cases hn
        · cases hu
          exact ⟨by simpa using hopen, hne, Nat.le_of_not_lt hmem, hread, hi, hcomplete⟩

/-- The fuel decides whether it comes to a result, not to which. -/
theorem readChars_unique {n m : Nat} {a b : Except Abort (Option ReadState)} (ha : readChars f n = some a)
    (hb : readChars f m = some b) : a = b := by
  unfold readChars at ha hb
  by_cases hopen : (!f.opens) = true
  · rw [if_pos hopen] at ha hb
    exact Option.some.inj (ha.symm.trans hb)
  rw [if_neg hopen] at ha hb
  by_cases hmem : f.memory < f.capacity
  · rw [if_pos hmem] at ha hb
    exact Option.some.inj (ha.symm.trans hb)
  rw [if_neg hmem] at ha hb
  by_cases hcap : f.capacity ≤ f.size
  · rw [if_pos hcap] at ha hb
    exact Option.some.inj (ha.symm.trans hb)
  rw [if_neg hcap] at ha hb
  exact Exits.unique ⟨n, ha⟩ ⟨m, hb⟩

theorem readFileRun_unique {n m : Nat} {a b : Except Abort (Option JsString)} (ha : readFileRun P f n = some a)
    (hb : readFileRun P f m = some b) : a = b := by
  unfold readFileRun at ha hb
  cases hn : readChars f n with
  | none => rw [hn] at ha; cases ha
  | some r =>
    cases hm : readChars f m with
    | none => rw [hm] at hb; cases hb
    | some q =>
      obtain rfl := readChars_unique hn hm
      rw [hn] at ha
      rw [hm] at hb
      exact Option.some.inj (ha.symm.trans hb)

theorem readFileRun_isSome (f : FileRun) (fuel : Nat) : (readFileRun P f fuel).isSome ↔ (readChars f fuel).isSome := by
  unfold readFileRun
  cases readChars f fuel with
  | none => exact Iff.rfl
  | some r =>
    cases r with
    | error e => simp
    | ok o => cases o <;> simp

end Convert

/-! ## Faithful reading -/

/-- `ReadFile` ends, `size + 1` is the size plus one, no byte is written outside the array,
    and V8 makes its string of all the bytes read, in order, and of no others. -/
structure ReadsFaithfully (P : Platform) (f : FileRun) : Prop where
  ends : ∃ fuel r, readFileRun P f fuel = some r
  noWrap : f.opens = true → f.capacity = f.size + 1
  inBounds : ∀ fuel, readChars f fuel ≠ some (.error (.fault .outOfBounds))
  faithful : ∀ fuel s x, readChars f fuel = some (.ok (some s)) → newFromUtf8Len P s.chars f.ftell = some x →
    f.ftell.toInt32.toInt = s.read.length ∧ s.chars.read s.read.length = s.read

/-- A file that can be opened has a size, and if there is memory for it, then an error or
    its bytes come, and the size of what comes whole is an int or makes no string. -/
def FileRun.Sound (P : Platform) (f : FileRun) : Prop :=
  f.opens = true → f.ftell ≠ -1 ∧ (f.capacity ≤ f.memory → f.Ends ∧ ∀ n, f.CompleteAt n →
    f.size < 2 ^ 31 ∨ P.newFromUtf8 (v8Bytes P f.ftell ((f.supplied n).take f.size)) = none)

theorem toInt32_eq_iff {x : Int64} (h : 0 ≤ x.toInt) : x.toInt32.toInt = x.toInt ↔ x.toInt < 2 ^ 31 := by
  have hlt := x.toInt_lt
  rw [Int64.toInt_toInt32, Int.bmod_def]
  split <;> omega

section Sound

variable {f : FileRun}

/-- The string V8 makes of a whole file has its length exactly if that is an int. -/
theorem length_int_iff (h : f.ftell ≠ -1) {s : ReadState} (hs : Reading f s) (hi : s.i = f.size) :
    f.ftell.toInt32.toInt = s.read.length ↔ f.size < 2 ^ 31 := by
  have hsize := size_eq h
  rw [← hs.i, hi, hsize, toInt32_eq_iff (ftell_nonneg h)]
  omega

theorem ReadsFaithfully.sound (h : ReadsFaithfully P f) : f.Sound P := by
  intro hopen
  have hne : f.ftell ≠ -1 := by
    intro e
    have := size_failed e
    have := h.noWrap hopen
    omega
  have hcap := capacity_eq hne
  refine ⟨hne, fun hmem => ⟨?_, fun n hn => ?_⟩⟩
  · obtain ⟨fuel, r, hr⟩ := h.ends
    have hsome : (readChars f fuel).isSome := (readFileRun_isSome f fuel).mp (by rw [hr]; rfl)
    obtain ⟨x, hx⟩ := Option.isSome_iff_exists.mp hsome
    rw [readChars_open hopen hne hmem] at hx
    exact (reading_exits_iff hcap).mp ⟨x, fuel, hx⟩
  · obtain ⟨s, ⟨fuel, hs⟩, hread, hi, hcontent⟩ := reading_complete hcap hn
    rw [← readChars_open hopen hne hmem] at hs
    rw [← hcontent, ← newFromUtf8Len_full hne hread hi]
    cases hx : newFromUtf8Len P s.chars f.ftell with
    | none => exact .inr rfl
    | some x => exact .inl ((length_int_iff hne hread hi).mp (h.faithful fuel s x hs hx).1)

theorem FileRun.Sound.ends (h : f.Sound P) : ∃ fuel r, readFileRun P f fuel = some r := by
  have hchars : ∃ fuel r, readChars f fuel = some r := by
    cases hopen : f.opens with
    | false => exact ⟨0, _, readChars_closed hopen 0⟩
    | true =>
      obtain ⟨hne, hmem⟩ := h hopen
      by_cases hm : f.capacity ≤ f.memory
      · obtain ⟨r, fuel, hr⟩ := (reading_exits_iff (capacity_eq hne)).mpr (hmem hm).1
        exact ⟨fuel, r, (readChars_open hopen hne hm fuel).trans hr⟩
      · exact ⟨0, _, readChars_noMemory hopen (Nat.lt_of_not_le hm) 0⟩
  obtain ⟨fuel, r, hr⟩ := hchars
  exact ⟨fuel, Option.isSome_iff_exists.mp ((readFileRun_isSome f fuel).mpr (by rw [hr]; rfl))⟩

theorem FileRun.Sound.inBounds (h : f.Sound P) (fuel : Nat) : readChars f fuel ≠ some (.error (.fault .outOfBounds)) := by
  intro hx
  cases hopen : f.opens with
  | false =>
    rw [readChars_closed hopen] at hx
    cases hx
  | true =>
    obtain ⟨hne, -⟩ := h hopen
    by_cases hm : f.capacity ≤ f.memory
    · rw [readChars_open hopen hne hm] at hx
      rcases reading_exit (capacity_eq hne) ⟨fuel, hx⟩ with ⟨he, -⟩ | ⟨s, he, -⟩ <;> cases he
    · rw [readChars_noMemory hopen (Nat.lt_of_not_le hm)] at hx
      cases hx

theorem FileRun.Sound.faithful (h : f.Sound P) {fuel : Nat} {s : ReadState} {x : JsString}
    (hs : readChars f fuel = some (.ok (some s))) (hx : newFromUtf8Len P s.chars f.ftell = some x) :
    f.ftell.toInt32.toInt = s.read.length ∧ s.chars.read s.read.length = s.read := by
  obtain ⟨hopen, hne, hm, hread, hi, hcomplete⟩ := readChars_full hs
  refine ⟨(length_int_iff hne hread hi).mpr ?_, by rw [← hread.i]; exact hread.chars⟩
  rcases ((h hopen).2 hm).2 s.calls hcomplete with hlt | hnone
  · exact hlt
  · rw [newFromUtf8Len_full hne hread hi, hread.read, hnone] at hx
    cases hx

end Sound

/-- `ReadFile` reads faithfully exactly in sound runs. -/
theorem reads_faithfully_iff (P : Platform) (f : FileRun) : ReadsFaithfully P f ↔ f.Sound P := by
  constructor
  · intro h
    exact h.sound
  · intro h
    exact {
      ends := h.ends
      noWrap := fun hopen => capacity_eq (h hopen).1
      inBounds := h.inBounds
      faithful := fun _ _ _ hs hx => h.faithful hs hx }

/-- A file of 4097 bytes, more than stdio has read when it tells the size, that was cut to none after `ftell`. -/
def FileRun.truncated : FileRun where
  opens := true
  ftell := 4097
  ftell_ge := by decide
  memory := 4098
  junk := fun _ => 0
  fread := fun _ => ⟨[], false⟩

/-- Its reading never ends. -/
theorem truncated_file_loops : ¬ReadsFaithfully .reference .truncated := by
  intro h
  obtain ⟨fuel, r, hr⟩ := h.ends
  have hdiv : Diverges (readStep .truncated) FileRun.truncated.start := by
    refine diverges_of_inv (I := fun s => s.i = 0) (fun s hs => ?_) rfl
    refine ⟨⟨0, s.chars.write s.i [], s.calls + 1, s.read ++ []⟩, ?_, rfl⟩
    obtain ⟨i, chars, calls, read⟩ := s
    cases hs
    rfl
  have hchars : readChars .truncated fuel = none := (readChars_open rfl (by decide) (by decide) fuel).trans (hdiv fuel)
  rw [readFileRun, hchars] at hr
  cases hr

end MesiboV8
