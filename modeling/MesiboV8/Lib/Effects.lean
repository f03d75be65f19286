/-
  MesiboV8.Lib.Effects — code that threads a state and may fail, `StateT σ (Except φ)`.

  `bind_ok` and `bind_eq` take a sequence apart. Whenever `x` returns, it returns a `Q` if
  `Ensures Q x`, and the state before it and the one after it are related by `R` if
  `Keeps R x`; for a preorder that is closed under sequencing and branching, so a frame is
  proved once for each primitive and composed from there. `Local view x` is the other
  half: `x` reads and changes nothing but the view. Whenever `x` fails, it fails with a `Q`
  if `Raises Q x`.
-/

import Mathlib.Order.Defs.Unbundled

namespace MesiboV8.Lib.Effects

variable {σ φ α β : Type} {R : σ → σ → Prop}

/-- What a run of two steps that returned did. -/
theorem bind_ok {x : StateT σ (Except φ) α} {f : α → StateT σ (Except φ) β} {s u : σ} {b : β} :
    (x >>= f) s = .ok (b, u) ↔ ∃ a t, x s = .ok (a, t) ∧ f a t = .ok (b, u) := by
  show (Except.bind (x s) fun r => f r.1 r.2) = _ ↔ _
  cases x s with
  | ok r =>
    obtain ⟨a, t⟩ := r
    constructor
    · exact fun h => ⟨a, t, rfl, h⟩
    · intro hx
      obtain ⟨_, _, ⟨⟩, h⟩ := hx
      exact h
  | error e => simp [Except.bind]

theorem bind_eq {x : StateT σ (Except φ) α} {f : α → StateT σ (Except φ) β} {s t : σ} {a : α}
    (h : x s = .ok (a, t)) : (x >>= f) s = f a t := by
  show (Except.bind (x s) fun r => f r.1 r.2) = _
  rw [h]; rfl

theorem bind_error {x : StateT σ (Except φ) α} {f : α → StateT σ (Except φ) β} {s : σ} {e : φ}
    (h : x s = .error e) : (x >>= f) s = .error e := by
  show (Except.bind (x s) fun r => f r.1 r.2) = _
  rw [h]; rfl

theorem get_bind {f : σ → StateT σ (Except φ) α} {s : σ} : (get >>= f) s = f s s := bind_eq rfl

/-! ## Results -/

/-- A run of `x` that returns, returns `a`. -/
def Yields (a : α) (x : StateT σ (Except φ) α) : Prop := ∀ s b t, x s = .ok (b, t) → b = a

theorem Yields.pure (a : α) : Yields a (pure a : StateT σ (Except φ) α) := fun _ _ _ h => by cases h; rfl

theorem Yields.bind {x : StateT σ (Except φ) α} {f : α → StateT σ (Except φ) β} {b : β} (hf : ∀ a, Yields b (f a)) :
    Yields b (x >>= f) := fun _ _ _ h => by
  obtain ⟨a, t, -, h⟩ := bind_ok.mp h
  exact hf a _ _ _ h

/-- A run of `x` that returns, returns a `Q`. -/
def Ensures (Q : α → Prop) (x : StateT σ (Except φ) α) : Prop := ∀ s a t, x s = .ok (a, t) → Q a

namespace Ensures

variable {Q : α → Prop} {S : β → Prop}

theorem pure {a : α} (h : Q a) : Ensures Q (pure a : StateT σ (Except φ) α) := fun _ _ _ hx => by cases hx; exact h

theorem bind {x : StateT σ (Except φ) α} {f : α → StateT σ (Except φ) β} (hx : Ensures Q x)
    (hf : ∀ a, Q a → Ensures S (f a)) : Ensures S (x >>= f) := fun s b u h => by
  obtain ⟨a, t, ht, hu⟩ := bind_ok.mp h
  exact hf a (hx s a t ht) t b u hu

/-- Where nothing is known of the first step's result, nothing needs to be. -/
theorem bind_any {x : StateT σ (Except φ) α} {f : α → StateT σ (Except φ) β} (hf : ∀ a, Ensures S (f a)) :
    Ensures S (x >>= f) := bind (Q := fun _ => True) (fun _ _ _ _ => trivial) fun a _ => hf a

end Ensures

/-! ## Failures -/

/-- A run of `x` that fails, fails with a `Q`. -/
def Raises (Q : φ → Prop) (x : StateT σ (Except φ) α) : Prop := ∀ s e, x s = .error e → Q e

namespace Raises

variable {Q : φ → Prop}

theorem pure (a : α) : Raises Q (pure a : StateT σ (Except φ) α) := fun _ _ h => by cases h

theorem get : Raises Q (get : StateT σ (Except φ) σ) := fun _ _ h => by cases h

theorem modify (f : σ → σ) : Raises Q (modify f : StateT σ (Except φ) Unit) := fun _ _ h => by cases h

theorem bind {x : StateT σ (Except φ) α} {f : α → StateT σ (Except φ) β} (hx : Raises Q x) (hf : ∀ a, Raises Q (f a)) :
    Raises Q (x >>= f) := fun s e h => by
  cases hs : x s with
  | error d =>
    cases (bind_error hs).symm.trans h
    exact hx s e hs
  | ok r =>
    rw [bind_eq hs] at h
    exact hf r.1 r.2 e h

end Raises

/-- `y` is `x` and something that does not fail after it. -/
theorem error_iff_of {x : Except φ α} {y : Except φ β} {e : φ} (herr : ∀ d, x = .error d → y = .error d)
    (hok : ∀ a, x = .ok a → ∃ b, y = .ok b) : y = .error e ↔ x = .error e := by
  cases hx : x with
  | error d => rw [herr d hx, Except.error.injEq, Except.error.injEq]
  | ok a =>
    obtain ⟨b, hy⟩ := hok a hx
    simp [hy]

/-! ## Frames -/

/-- A run of `x` that returns goes from a state to an `R`-related one. -/
def Keeps (R : σ → σ → Prop) (x : StateT σ (Except φ) α) : Prop := ∀ s a t, x s = .ok (a, t) → R s t

namespace Keeps

theorem pure [Std.Refl R] (a : α) : Keeps R (pure a : StateT σ (Except φ) α) := fun s _ _ h => by
  cases h; exact Std.Refl.refl s

theorem get [Std.Refl R] : Keeps R (get : StateT σ (Except φ) σ) := fun s _ _ h => by
  cases h; exact Std.Refl.refl s

theorem modify {f : σ → σ} (h : ∀ s, R s (f s)) : Keeps R (modify f : StateT σ (Except φ) Unit) := fun s _ _ hf => by
  cases hf; exact h s

theorem bind [IsTrans σ R] {x : StateT σ (Except φ) α} {f : α → StateT σ (Except φ) β} (hx : Keeps R x)
    (hf : ∀ a, Keeps R (f a)) : Keeps R (x >>= f) := fun s b u h => by
  obtain ⟨a, t, ht, hu⟩ := bind_ok.mp h
  exact IsTrans.trans s t u (hx s a t ht) (hf a t b u hu)

end Keeps

/-! ## Local code -/

/-- What `x` returns and what it makes of the view depends on the view alone. -/
def Local {ν : Type} (view : σ → ν) (x : StateT σ (Except φ) α) : Prop :=
  ∀ s s' a t, view s' = view s → x s = .ok (a, t) → ∃ t', x s' = .ok (a, t') ∧ view t' = view t

namespace Local

variable {ν : Type} {view : σ → ν}

theorem pure (a : α) : Local view (pure a : StateT σ (Except φ) α) := fun s s' _ _ hv h => by
  cases h; exact ⟨s', rfl, hv⟩

theorem bind {x : StateT σ (Except φ) α} {f : α → StateT σ (Except φ) β} (hx : Local view x)
    (hf : ∀ a, Local view (f a)) : Local view (x >>= f) := fun s s' b u hv h => by
  obtain ⟨a, t, ht, hu⟩ := bind_ok.mp h
  obtain ⟨t', ht', hv'⟩ := hx s s' a t hv ht
  obtain ⟨u', hu', hw⟩ := hf a t t' b u hv' hu
  exact ⟨u', bind_ok.mpr ⟨a, t', ht', hu'⟩, hw⟩

theorem modify {f : σ → σ} (h : ∀ s s', view s' = view s → view (f s') = view (f s)) :
    Local view (modify f : StateT σ (Except φ) Unit) := fun s s' _ _ hv hf => by
  cases hf; exact ⟨f s', rfl, h s s' hv⟩

end Local

end MesiboV8.Lib.Effects
