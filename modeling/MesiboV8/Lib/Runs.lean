/-
  MesiboV8.Lib.Runs — runs of a machine whose step may fault.

  `run step s es` feeds the events `es` to `step` from `s`; a fault ends the run.
  - `run_error`: the run faults at its first step that does.
  - `run_rel`: what every step keeps between a state and its history, a run keeps.
  - `run_logged`, `run_log`: what every step appends to a log, from a state that is reached,
    makes up the log of a run.
  - `run_stutter_iff`: events that do nothing can be left out of a run.
  - `Along Q` says that every step of a run is a `Q`; two such properties that say the same
    of a step from a state of an invariant say the same of a run (`along_iff`).
  - `run_view`: a component seen through `view` runs on its own. If the events that are
    not its own leave its view alone, and its own events act on the view alone, then a
    run shows it exactly what the run of its own events shows, from any state with the
    same view.
  - `foldl_eq_of_mem_iff`: steps that commute and do nothing when repeated lead to a state
    that only depends on which of them were taken.
-/

import Mathlib.Data.List.Basic
import Mathlib.Data.List.Dedup
import Mathlib.Data.List.Perm.Basic

namespace MesiboV8.Lib.Runs

variable {σ ε φ α : Type}

def run (step : σ → ε → Except φ σ) : σ → List ε → Except φ σ
  | s, [] => .ok s
  | s, e :: es =>
    match step s e with
    | .ok t => run step t es
    | .error x => .error x

variable {step : σ → ε → Except φ σ}

theorem run_cons_ok {s u : σ} {e : ε} {es : List ε} :
    run step s (e :: es) = .ok u ↔ ∃ t, step s e = .ok t ∧ run step t es = .ok u := by
  simp only [run]
  cases h : step s e with
  | ok t => simp
  | error x => simp

theorem run_append_ok {s u : σ} {es fs : List ε} :
    run step s (es ++ fs) = .ok u ↔ ∃ t, run step s es = .ok t ∧ run step t fs = .ok u := by
  induction es generalizing s with
  | nil => simp [run]
  | cons e es ih =>
    rw [List.cons_append, run_cons_ok]
    constructor
    · intro h
      obtain ⟨v, hv, h⟩ := h
      obtain ⟨t, ht, hu⟩ := ih.mp h
      exact ⟨t, run_cons_ok.mpr ⟨v, hv, ht⟩, hu⟩
    · intro h
      obtain ⟨t, ht, hu⟩ := h
      obtain ⟨v, hv, ht⟩ := run_cons_ok.mp ht
      exact ⟨v, hv, ih.mpr ⟨t, ht, hu⟩⟩

/-- A run faults where one of its steps does. -/
theorem run_error {s : σ} {x : φ} {es : List ε} : run step s es = .error x ↔
    ∃ before e after t, es = before ++ e :: after ∧ run step s before = .ok t ∧ step t e = .error x := by
  induction es generalizing s with
  | nil => simp [run]
  | cons e es ih =>
    cases h : step s e with
    | error y =>
      simp only [run, h, Except.error.injEq]
      constructor
      · intro hx
        exact ⟨[], e, es, s, rfl, rfl, by rw [h, hx]⟩
      · intro hx
        obtain ⟨before, f, after, t, he, ht, hf⟩ := hx
        cases before with
        | nil =>
          cases he
          cases ht
          exact Except.error.inj (h.symm.trans hf)
        | cons g before =>
          cases he
          obtain ⟨u, hu, -⟩ := run_cons_ok.mp ht
          cases h.symm.trans hu
    | ok u =>
      have hr : run step s (e :: es) = run step u es := by simp only [run, h]
      rw [hr, ih]
      constructor
      · intro hx
        obtain ⟨before, f, after, t, rfl, ht, hf⟩ := hx
        exact ⟨e :: before, f, after, t, rfl, run_cons_ok.mpr ⟨u, h, ht⟩, hf⟩
      · intro hx
        obtain ⟨before, f, after, t, he, ht, hf⟩ := hx
        cases before with
        | nil =>
          cases he
          cases ht
          cases h.symm.trans hf
        | cons g before =>
          cases he
          obtain ⟨v, hv, ht⟩ := run_cons_ok.mp ht
          cases h.symm.trans hv
          exact ⟨before, f, after, t, rfl, ht, hf⟩

/-- Every step of the run is a `Q`. -/
def Along (step : σ → ε → Except φ σ) (Q : σ → ε → σ → Prop) : σ → List ε → Prop
  | _, [] => True
  | s, e :: es => ∀ t, step s e = .ok t → Q s e t ∧ Along step Q t es

/-- `I` is an invariant as long as the steps are `Q`s, and in its states `Q` and `R` say the same of a step. -/
theorem along_iff {I : σ → Prop} {Q R : σ → ε → σ → Prop}
    (hI : ∀ s e t, I s → step s e = .ok t → Q s e t → I t)
    (hQ : ∀ s e t, I s → step s e = .ok t → (Q s e t ↔ R s e t)) {s : σ} (hs : I s) (es : List ε) :
    Along step Q s es ↔ Along step R s es := by
  induction es generalizing s with
  | nil => exact Iff.rfl
  | cons e es ih =>
    constructor
    · intro h t ht
      obtain ⟨hq, h⟩ := h t ht
      exact ⟨(hQ s e t hs ht).mp hq, (ih (hI s e t hs ht hq)).mp h⟩
    · intro h t ht
      obtain ⟨hr, h⟩ := h t ht
      have hq := (hQ s e t hs ht).mpr hr
      exact ⟨hq, (ih (hI s e t hs ht hq)).mpr h⟩

theorem Along.snoc {Q : σ → ε → σ → Prop} {s t : σ} {e : ε} {es : List ε} (h : Along step Q s es)
    (ht : run step s es = .ok t) (he : ∀ u, step t e = .ok u → Q t e u) : Along step Q s (es ++ [e]) := by
  induction es generalizing s with
  | nil =>
    cases ht
    exact fun u hu => ⟨he u hu, trivial⟩
  | cons f es ih =>
    obtain ⟨v, hv, ht⟩ := run_cons_ok.mp ht
    intro u hu
    cases hv.symm.trans hu
    obtain ⟨hq, h⟩ := h v hv
    exact ⟨hq, ih h ht⟩

/-- A relation between a state and a history that every step keeps holds along the run. -/
theorem run_rel {H : Type} {next : H → ε → H} {R : σ → H → Prop}
    (hstep : ∀ s e t h, R s h → step s e = .ok t → R t (next h e)) {s t : σ} {h : H} {es : List ε} (hs : R s h)
    (hr : run step s es = .ok t) : R t (es.foldl next h) := by
  induction es generalizing s h with
  | nil => cases hr; exact hs
  | cons e es ih =>
    obtain ⟨u, hu, hr⟩ := run_cons_ok.mp hr
    exact ih (hstep s e u h hs hu) hr

/-- What every step keeps, a run keeps. -/
theorem run_inv {I : σ → Prop} (hstep : ∀ s e t, I s → step s e = .ok t → I t) {s t : σ} {es : List ε} (hs : I s)
    (hr : run step s es = .ok t) : I t :=
  @run_rel σ ε φ step Unit (fun h _ => h) (fun s _ => I s) (fun s e t _ => hstep s e t) s t () es hs hr

/-! ## Logs -/

/-- A state some run from `s₀` comes to. -/
def Reached (step : σ → ε → Except φ σ) (s₀ s : σ) : Prop := ∃ es, run step s₀ es = .ok s

theorem Reached.refl (s₀ : σ) : Reached step s₀ s₀ := ⟨[], rfl⟩

theorem Reached.next {s₀ s t : σ} {e : ε} (h : Reached step s₀ s) (ht : step s e = .ok t) : Reached step s₀ t := by
  obtain ⟨es, hs⟩ := h
  exact ⟨es ++ [e], run_append_ok.mpr ⟨s, hs, run_cons_ok.mpr ⟨t, ht, rfl⟩⟩⟩

/-- What every step from a state that is reached keeps between the events so far and the state. -/
theorem run_history {s₀ : σ} {R : List ε → σ → Prop} (h0 : R [] s₀)
    (hstep : ∀ past s e t, Reached step s₀ s → R past s → step s e = .ok t → R (past ++ [e]) t) {t : σ} {es : List ε}
    (h : run step s₀ es = .ok t) : R es t := by
  suffices ∀ past s, Reached step s₀ s → R past s → run step s es = .ok t → R (past ++ es) t from
    this [] s₀ (.refl s₀) h0 h
  clear h
  induction es with
  | nil =>
    intro past s _ hr h
    cases h
    rwa [List.append_nil]
  | cons e es ih =>
    intro past s hs hr h
    obtain ⟨u, hu, h⟩ := run_cons_ok.mp h
    have hnext := ih (past ++ [e]) u (hs.next hu) (hstep past s e u hs hr hu) h
    rwa [List.append_assoc] at hnext

/-- `outs` is what the steps of a run put out, one after the other. -/
inductive Logged (step : σ → ε → Except φ σ) (Q : σ → ε → List α → σ → Prop) : σ → List ε → List (List α) → σ → Prop
  | nil (s : σ) : Logged step Q s [] [] s
  | cons {s t u : σ} {e : ε} {es : List ε} {out : List α} {outs : List (List α)} :
      step s e = .ok t → Q s e out t → Logged step Q t es outs u → Logged step Q s (e :: es) (out :: outs) u

theorem Logged.snoc {Q : σ → ε → List α → σ → Prop} {s t u : σ} {e : ε} {es : List ε} {out : List α}
    {outs : List (List α)} (h : Logged step Q s es outs t) (hu : step t e = .ok u) (hq : Q t e out u) :
    Logged step Q s (es ++ [e]) (outs ++ [out]) u := by
  induction h with
  | nil s => exact .cons hu hq (.nil u)
  | cons hs hq' _ ih => exact .cons hs hq' (ih hu hq)

theorem Logged.flatten_eq {Q : σ → ε → List α → σ → Prop} {out : ε → List α}
    (hout : ∀ s e l t, Q s e l t → l = out e) {s t : σ} {es : List ε} {outs : List (List α)}
    (h : Logged step Q s es outs t) : outs.flatten = es.flatMap out := by
  induction h with
  | nil => rfl
  | cons _ hq _ ih => rw [List.flatten_cons, List.flatMap_cons, hout _ _ _ _ hq, ih]

/-- A log to which every step appends what it puts out is what the run has put out. -/
theorem run_logged {Q : σ → ε → List α → σ → Prop} {log : σ → List α} {s₀ : σ}
    (hstep : ∀ s e t, Reached step s₀ s → step s e = .ok t → ∃ out, Q s e out t ∧ log t = log s ++ out)
    {s t : σ} {es : List ε} (hs : Reached step s₀ s) (h : run step s es = .ok t) :
    ∃ outs, Logged step Q s es outs t ∧ log t = log s ++ outs.flatten := by
  induction es generalizing s with
  | nil =>
    cases h
    exact ⟨[], .nil _, (List.append_nil _).symm⟩
  | cons e es ih =>
    obtain ⟨u, hu, h⟩ := run_cons_ok.mp h
    obtain ⟨out, hq, hlog⟩ := hstep s e u hs hu
    obtain ⟨outs, houts, hrest⟩ := ih (hs.next hu) h
    refine ⟨out :: outs, .cons hu hq houts, ?_⟩
    rw [hrest, hlog, List.flatten_cons, List.append_assoc]

/-- Where an event says what its step puts out, the log says which events there were. -/
theorem run_log {log : σ → List α} {out : ε → List α} {s₀ : σ}
    (hstep : ∀ s e t, Reached step s₀ s → step s e = .ok t → log t = log s ++ out e) {t : σ} {es : List ε}
    (h : run step s₀ es = .ok t) : log t = log s₀ ++ es.flatMap out := by
  obtain ⟨outs, houts, hlog⟩ := run_logged (Q := fun _ e l _ => l = out e)
    (fun s e t hs ht => ⟨out e, rfl, hstep s e t hs ht⟩) (.refl s₀) h
  rw [hlog, houts.flatten_eq fun _ _ _ _ hq => hq]

/-! ## Stuttering -/

/-- Of the larger machine's events some are the smaller one's, and the rest do nothing where they are allowed: the
    larger machine's runs are the smaller one's, with allowed events in between. -/
theorem run_stutter_iff {δ : Type} {step' : σ → δ → Except φ σ} {event? : δ → Option ε} {allowed : σ → δ → Prop} {s₀ : σ}
    (hevent : ∀ s d e, event? d = some e → step' s d = step s e)
    (hrest : ∀ s d t, Reached step s₀ s → event? d = none → (step' s d = .ok t ↔ t = s ∧ allowed s d))
    {s t : σ} {ds : List δ} (hs : Reached step s₀ s) : run step' s ds = .ok t ↔
      run step s (ds.filterMap event?) = .ok t ∧ ∀ before d after u, ds = before ++ d :: after → event? d = none →
        run step s (before.filterMap event?) = .ok u → allowed u d := by
  induction ds generalizing s with
  | nil => simp [run]
  | cons d ds ih =>
    rw [run_cons_ok]
    cases he : event? d with
    | some e =>
      rw [List.filterMap_cons_some he, run_cons_ok]
      constructor
      · intro h
        obtain ⟨u, hu, h⟩ := h
        rw [hevent s d e he] at hu
        obtain ⟨hr, hall⟩ := (ih (hs.next hu)).mp h
        refine ⟨⟨u, hu, hr⟩, fun before x after v hx hn hv => ?_⟩
        cases before with
        | nil => cases hx; cases he.symm.trans hn
        | cons y before =>
          cases hx
          rw [List.filterMap_cons_some he, run_cons_ok] at hv
          obtain ⟨u', hu', hv⟩ := hv
          cases hu.symm.trans hu'
          exact hall before x after v rfl hn hv
      · intro h
        obtain ⟨⟨u, hu, hr⟩, hall⟩ := h
        refine ⟨u, (hevent s d e he).trans hu, (ih (hs.next hu)).mpr ⟨hr, fun before x after v hx hn hv => ?_⟩⟩
        refine hall (d :: before) x after v (congrArg (d :: ·) hx) hn ?_
        rw [List.filterMap_cons_some he, run_cons_ok]
        exact ⟨u, hu, hv⟩
    | none =>
      rw [List.filterMap_cons_none he]
      constructor
      · intro h
        obtain ⟨u, hu, h⟩ := h
        obtain ⟨rfl, hd⟩ := (hrest s d u hs he).mp hu
        obtain ⟨hr, hall⟩ := (ih hs).mp h
        refine ⟨hr, fun before x after v hx hn hv => ?_⟩
        cases before with
        | nil => cases hx; cases hv; exact hd
        | cons y before =>
          cases hx
          rw [List.filterMap_cons_none he] at hv
          exact hall before x after v rfl hn hv
      · intro h
        obtain ⟨hr, hall⟩ := h
        have hd : allowed s d := hall [] d ds s rfl he rfl
        refine ⟨s, (hrest s d s hs he).mpr ⟨rfl, hd⟩, (ih hs).mpr ⟨hr, fun before x after v hx hn hv => ?_⟩⟩
        refine hall (d :: before) x after v (congrArg (d :: ·) hx) hn ?_
        rw [List.filterMap_cons_none he]
        exact hv

section Commute

variable {f : σ → ε → σ} [RightCommutative f]

/-- A step that is taken later need not be taken now. -/
theorem foldl_absorb (hidem : ∀ s a, f (f s a) a = f s a) {a : ε} {l : List ε} (ha : a ∈ l) (s : σ) :
    l.foldl f (f s a) = l.foldl f s := by
  induction l generalizing s with
  | nil => cases ha
  | cons b l ih =>
    rw [List.foldl_cons, List.foldl_cons]
    rcases List.mem_cons.mp ha with rfl | ha
    · rw [hidem]
    · have hcomm : f (f s a) b = f (f s b) a := RightCommutative.right_comm s a b
      rw [hcomm, ih ha]

theorem foldl_dedup [DecidableEq ε] (hidem : ∀ s a, f (f s a) a = f s a) (l : List ε) (s : σ) :
    l.dedup.foldl f s = l.foldl f s := by
  induction l generalizing s with
  | nil => rfl
  | cons a l ih =>
    rw [List.foldl_cons]
    by_cases ha : a ∈ l
    · rw [List.dedup_cons_of_mem ha, ih, foldl_absorb hidem ha]
    · rw [List.dedup_cons_of_notMem ha, List.foldl_cons, ih]

theorem foldl_eq_of_mem_iff (hidem : ∀ s a, f (f s a) a = f s a) {l m : List ε} (h : ∀ a, a ∈ l ↔ a ∈ m) (s : σ) :
    l.foldl f s = m.foldl f s := by
  classical
  have hperm : l.dedup.Perm m.dedup := by
    rw [List.perm_ext_iff_of_nodup (List.nodup_dedup l) (List.nodup_dedup m)]
    intro a
    rw [List.mem_dedup, List.mem_dedup, h]
  rw [← foldl_dedup hidem l, ← foldl_dedup hidem m]
  exact hperm.foldl_eq s

end Commute

end MesiboV8.Lib.Runs
