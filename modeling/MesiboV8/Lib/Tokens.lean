/-
  MesiboV8.Lib.Tokens — tokens that are issued once and settled at most once.

  A `Ledger` holds the tokens issued and those settled since, each in the order it
  happened, with the proofs that make it one: no token is issued twice, and none is settled
  twice or without having been issued. So a booking needs what keeps it so (`issue`,
  `settle`). The open tokens are those issued and not settled (`open_issue`, `open_settle`),
  and none gets lost: the open ones and the settled ones make up all that were issued
  (`length_issued`).
-/

import Mathlib.Data.List.Nodup
import Mathlib.Data.List.Perm.Basic
import Mathlib.Logic.Relation

namespace MesiboV8.Lib.Tokens

open Relation

structure Ledger (κ : Type) where
  issued : List κ
  settled : List κ
  issued_nodup : issued.Nodup
  settled_nodup : settled.Nodup
  settled_issued : ∀ k ∈ settled, k ∈ issued

namespace Ledger

variable {κ : Type} {l : Ledger κ} {k x : κ}

def empty : Ledger κ := ⟨[], [], List.nodup_nil, List.nodup_nil, nofun⟩

def Open (l : Ledger κ) (k : κ) : Prop := k ∈ l.issued ∧ k ∉ l.settled

/-! ## Bookings -/

def issue (l : Ledger κ) (k : κ) (h : k ∉ l.issued) : Ledger κ where
  issued := l.issued ++ [k]
  settled := l.settled
  issued_nodup := List.nodup_append.mpr ⟨l.issued_nodup, List.nodup_singleton k, fun a ha b hb => by
    intro e
    rw [List.mem_singleton.mp hb] at e
    exact h (e ▸ ha)⟩
  settled_nodup := l.settled_nodup
  settled_issued := fun x hx => List.mem_append_left _ (l.settled_issued x hx)

def settle (l : Ledger κ) (k : κ) (h : l.Open k) : Ledger κ where
  issued := l.issued
  settled := l.settled ++ [k]
  issued_nodup := l.issued_nodup
  settled_nodup := List.nodup_append.mpr ⟨l.settled_nodup, List.nodup_singleton k, fun a ha b hb => by
    intro e
    rw [List.mem_singleton.mp hb] at e
    exact h.2 (e ▸ ha)⟩
  settled_issued := fun x hx => by
    rcases List.mem_append.mp hx with hx | hx
    · exact l.settled_issued x hx
    · rw [List.mem_singleton.mp hx]
      exact h.1

inductive Step : Ledger κ → Ledger κ → Prop
  | issue (l : Ledger κ) (k : κ) (h : k ∉ l.issued) : Step l (l.issue k h)
  | settle (l : Ledger κ) (k : κ) (h : l.Open k) : Step l (l.settle k h)

abbrev Steps : Ledger κ → Ledger κ → Prop := ReflTransGen Step

@[simp] theorem open_empty : ¬(empty : Ledger κ).Open k := fun h => nomatch h.1

theorem open_issue (h : k ∉ l.issued) : (l.issue k h).Open x ↔ l.Open x ∨ x = k := by
  have hs : k ∉ l.settled := fun hk => h (l.settled_issued k hk)
  simp only [Open, issue, List.mem_append, List.mem_singleton]
  by_cases e : x = k
  · subst e
    simp [hs]
  · simp [e]

theorem open_settle (h : l.Open k) : (l.settle k h).Open x ↔ l.Open x ∧ x ≠ k := by
  simp only [Open, settle, List.mem_append, List.mem_singleton, not_or]
  exact and_assoc.symm

/-! ## Balance -/

/-- The issued tokens are the open ones and the settled ones. -/
theorem length_issued [DecidableEq κ] (l : Ledger κ) :
    l.issued.length = (l.issued.filter (· ∉ l.settled)).length + l.settled.length := by
  have hperm : (l.issued.filter (· ∈ l.settled)).Perm l.settled := by
    rw [List.perm_ext_iff_of_nodup (l.issued_nodup.filter _) l.settled_nodup]
    intro k
    rw [List.mem_filter, decide_eq_true_eq]
    exact ⟨fun h => h.2, fun h => ⟨l.settled_issued k h, h⟩⟩
  have hsplit := List.length_eq_length_filter_add (l := l.issued) (· ∈ l.settled)
  rw [hperm.length_eq] at hsplit
  simp only [decide_not]
  rw [hsplit, Nat.add_comm]

end Ledger

end MesiboV8.Lib.Tokens
