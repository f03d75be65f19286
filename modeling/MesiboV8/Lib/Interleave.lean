/-
  MesiboV8.Lib.Interleave — runs that only differ in how their events are interleaved.

  Two events commute when, from every state, both orders of them come to the same states
  (`Commutes`). Where events with different keys commute, a run is told by the events of each
  key, in their order: all interleavings of these come to the same states (`run_interleave`).
-/

import MesiboV8.Lib.Runs

namespace MesiboV8.Lib.Runs

variable {σ ε φ κ : Type} {step : σ → ε → Except φ σ}

def Commutes (step : σ → ε → Except φ σ) (e f : ε) : Prop :=
  ∀ s t, run step s [e, f] = .ok t ↔ run step s [f, e] = .ok t

theorem Commutes.symm {e f : ε} (h : Commutes step e f) : Commutes step f e := fun s t => (h s t).symm

theorem run_two {s t : σ} {e f : ε} : run step s [e, f] = .ok t ↔ ∃ u, step s e = .ok u ∧ step u f = .ok t := by
  have hnil : ∀ u v : σ, run step u [] = .ok v ↔ v = u := fun u v => by simp [run, eq_comm]
  simp only [run_cons_ok, hnil, exists_eq_right']

/-- An event that does nothing commutes with every other. -/
theorem Commutes.idle {e : ε} (h : ∀ s, step s e = .ok s) (f : ε) : Commutes step e f := by
  intro s t
  simp [run_two, h]

theorem Commutes.swap {e f : ε} (h : Commutes step e f) (es : List ε) (s t : σ) :
    run step s (e :: f :: es) = .ok t ↔ run step s (f :: e :: es) = .ok t := by
  have hsplit : ∀ x y : ε, run step s ([x, y] ++ es) = .ok t ↔
      ∃ u, run step s [x, y] = .ok u ∧ run step u es = .ok t := fun _ _ => run_append_ok
  refine (hsplit e f).trans (Iff.trans ?_ (hsplit f e).symm)
  exact exists_congr fun u => and_congr_left fun _ => h s u

/-- An event moves to the front of those it commutes with. -/
theorem run_front {e : ε} {before : List ε} (h : ∀ x ∈ before, Commutes step x e) (after : List ε) (s t : σ) :
    run step s (before ++ e :: after) = .ok t ↔ run step s (e :: (before ++ after)) = .ok t := by
  induction before generalizing s with
  | nil => exact Iff.rfl
  | cons x before ih =>
    have hfront : run step s (x :: (before ++ e :: after)) = .ok t ↔ run step s (x :: e :: (before ++ after)) = .ok t := by
      rw [run_cons_ok, run_cons_ok]
      exact exists_congr fun u => and_congr_right fun _ => ih (fun y hy => h y (List.mem_cons_of_mem _ hy)) u
    exact hfront.trans ((h x List.mem_cons_self).swap _ s t)

/-- Lists with the same events of each key come to the same states. -/
theorem run_interleave [DecidableEq κ] {key : ε → κ} {es fs : List ε}
    (hcomm : ∀ e ∈ es, ∀ f ∈ fs, key e ≠ key f → Commutes step f e)
    (h : ∀ k, es.filter (key · = k) = fs.filter (key · = k)) (s t : σ) :
    run step s es = .ok t ↔ run step s fs = .ok t := by
  induction es generalizing fs s with
  | nil =>
    cases fs with
    | nil => exact Iff.rfl
    | cons f fs =>
      have hf := h (key f)
      simp at hf
  | cons e es ih =>
    have he := h (key e)
    rw [List.filter_cons_of_pos (by simp)] at he
    -- the first event of its key in the other list
    obtain ⟨before, after, rfl, hbefore, -, hafter⟩ := List.filter_eq_cons_iff.mp he.symm
    have hfront : ∀ x ∈ before, Commutes step x e := fun x hx =>
      hcomm e List.mem_cons_self x (List.mem_append_left _ hx) fun hk => hbefore x hx (by simp [hk])
    rw [run_front hfront, run_cons_ok, run_cons_ok]
    refine exists_congr fun u => and_congr_right fun _ => ih (fun x hx y hy => ?_) (fun k => ?_) u
    · refine hcomm x (List.mem_cons_of_mem _ hx) y ?_
      rcases List.mem_append.mp hy with hy | hy
      · exact List.mem_append_left _ hy
      · exact List.mem_append_right _ (List.mem_cons_of_mem _ hy)
    · have hk := h k
      rw [List.filter_append] at hk ⊢
      by_cases hek : key e = k
      · subst hek
        have hnone : before.filter (key · = key e) = [] := List.filter_eq_nil_iff.mpr hbefore
        rw [hnone, List.nil_append, ← hafter]
      · rwa [List.filter_cons_of_neg (by simp [hek]), List.filter_cons_of_neg (by simp [hek])] at hk

end MesiboV8.Lib.Runs
