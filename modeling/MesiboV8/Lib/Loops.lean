/-
  MesiboV8.Lib.Loops — loops that need not end, run with fuel.

  `step` says of a state whether the loop goes on, and with which state, or leaves with a
  result. `loop` takes as many steps as it has fuel for; `Exits` says that some amount is
  enough for a result, `Diverges` that none is.
  - `Exits.unique`: the result does not depend on the fuel.
  - `exits_inv`: the loop leaves in a state of its invariant.
  - `exits_of_measure`, `diverges_of_inv`: how to show that it ends, and that it does not.
-/

import Mathlib.Order.Basic

namespace MesiboV8.Lib.Loops

variable {σ α : Type}

def loop (step : σ → σ ⊕ α) : Nat → σ → Option α
  | 0, _ => none
  | fuel + 1, s =>
    match step s with
    | .inl t => loop step fuel t
    | .inr a => some a

def Exits (step : σ → σ ⊕ α) (s : σ) (a : α) : Prop := ∃ fuel, loop step fuel s = some a

def Diverges (step : σ → σ ⊕ α) (s : σ) : Prop := ∀ fuel, loop step fuel s = none

variable {step : σ → σ ⊕ α} {I : σ → Prop}

theorem loop_next {s t : σ} (h : step s = .inl t) (fuel : Nat) : loop step (fuel + 1) s = loop step fuel t := by
  rw [loop, h]

theorem loop_exit {s : σ} {a : α} (h : step s = .inr a) (fuel : Nat) : loop step (fuel + 1) s = some a := by
  rw [loop, h]

/-! ## Fuel -/

theorem loop_mono {s : σ} {a : α} {n m : Nat} (h : loop step n s = some a) (hle : n ≤ m) : loop step m s = some a := by
  induction n generalizing s m with
  | zero => cases h
  | succ n ih =>
    obtain ⟨m, rfl⟩ : ∃ k, m = k + 1 := ⟨m - 1, by omega⟩
    cases hs : step s with
    | inl t =>
      rw [loop_next hs] at h ⊢
      exact ih h (by omega)
    | inr b =>
      rw [loop_exit hs] at h ⊢
      exact h

theorem Exits.unique {s : σ} {a b : α} (ha : Exits step s a) (hb : Exits step s b) : a = b := by
  obtain ⟨n, ha⟩ := ha
  obtain ⟨m, hb⟩ := hb
  have h := (loop_mono ha (Nat.le_max_left n m)).symm.trans (loop_mono hb (Nat.le_max_right n m))
  exact Option.some.inj h

/-! ## Invariants -/

/-- What the loop leaves with, it leaves with in a state of the invariant. -/
theorem exits_inv (hI : ∀ s t, I s → step s = .inl t → I t) {s : σ} {a : α} (hs : I s) (h : Exits step s a) :
    ∃ u, I u ∧ step u = .inr a := by
  obtain ⟨fuel, h⟩ := h
  induction fuel generalizing s with
  | zero => cases h
  | succ fuel ih =>
    cases hst : step s with
    | inl t =>
      rw [loop_next hst] at h
      exact ih (hI s t hs hst) h
    | inr b =>
      rw [loop_exit hst] at h
      cases h
      exact ⟨s, hs, hst⟩

/-- A loop whose steps bring a measure down ends. -/
theorem exits_of_measure (μ : σ → Nat) (h : ∀ s t, I s → step s = .inl t → I t ∧ μ t < μ s) {s : σ} (hs : I s) :
    ∃ a, Exits step s a := by
  induction hn : μ s using Nat.strongRecOn generalizing s with
  | ind n ih =>
    cases hst : step s with
    | inl t =>
      obtain ⟨ht, hlt⟩ := h s t hs hst
      obtain ⟨a, fuel, ha⟩ := ih (μ t) (hn ▸ hlt) ht rfl
      exact ⟨a, fuel + 1, by rw [loop_next hst, ha]⟩
    | inr a => exact ⟨a, 1, loop_exit hst 0⟩

/-- A loop that goes on from every state of an invariant does not. -/
theorem diverges_of_inv (h : ∀ s, I s → ∃ t, step s = .inl t ∧ I t) {s : σ} (hs : I s) : Diverges step s := by
  intro fuel
  induction fuel generalizing s with
  | zero => rfl
  | succ fuel ih =>
    obtain ⟨t, hst, ht⟩ := h s hs
    rw [loop_next hst]
    exact ih ht

end MesiboV8.Lib.Loops
