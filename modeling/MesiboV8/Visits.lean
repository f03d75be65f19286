/-
  MesiboV8.Visits — a processor over a run of `GetContext`s, with any code run in between.

  A visit leaves the time it found in `lastchanged_`, which is an int (`visit_stamp`). So the
  next one takes an unchanged file for unchanged exactly when that time survives the
  narrowing or leaves 0 behind (`unchanged_kept_iff`): on the other times of 64 bits every
  callback loads the script again.
-/

import MesiboV8.Lib.Runs
import MesiboV8.Reload

namespace MesiboV8

open Lib.Bytes Lib.Utf Lib.Runs

variable {P : Platform}

/-! ## The machine -/

/-- A `GetContext`: what has run since the one before, and what it finds at the path. -/
structure Visit where
  scripts : World → World
  file : ScriptFile

structure Visited where
  p : Processor
  w : World

def Visit.enter (P : Platform) (s : Visited) (v : Visit) : Except Fault (Option Int64 × Processor × World) :=
  getContext P s.p v.file (v.scripts s.w)

def visit (P : Platform) (s : Visited) (v : Visit) : Except Fault Visited :=
  match v.enter P s with
  | .ok (_, p, w) => .ok ⟨p, w⟩
  | .error f => .error f

theorem visit_ok {s t : Visited} {v : Visit} :
    visit P s v = .ok t ↔ ∃ st, v.enter P s = .ok (st, t.p, t.w) := by
  unfold visit
  cases v.enter P s with
  | error f => simp
  | ok r =>
    obtain ⟨st, p, w⟩ := r
    constructor
    · intro h
      cases h
      exact ⟨st, rfl⟩
    · intro h
      obtain ⟨st', h⟩ := h
      cases h
      rfl

/-! ## The time of the last visit -/

theorem Processor.Rebuilt.lastchanged {p p' : Processor} {source : JsString} (h : p.Rebuilt p' source) :
    p'.lastchanged_ = p.lastchanged_ := by
  obtain ⟨_, _, _, rfl⟩ := h
  rfl

theorem getContext_stamp {p p' : Processor} {fs : ScriptFile} {w w' : World} {st : Option Int64}
    (h : getContext P p fs w = .ok (st, p', w')) : p'.lastchanged_ = (getLastChanged P fs).toInt32 := by
  rcases getContext_cases h with ⟨-, -, rfl, -⟩ | ⟨rv, -, -, hi⟩
  · rfl
  · rcases initialize_cases hi with ⟨-, -, rfl⟩ | ⟨-, -, -, source, -, hb⟩
    · rfl
    · exact hb.lastchanged

theorem visit_stamp {s t : Visited} {v : Visit} (h : visit P s v = .ok t) :
    t.p.lastchanged_ = (getLastChanged P v.file).toInt32 := by
  obtain ⟨st, h⟩ := visit_ok.mp h
  exact getContext_stamp h

/-- A `GetContext` that reloads nothing and returns the context there was. -/
def Kept (P : Platform) (p : Processor) (fs : ScriptFile) (w : World) : Prop :=
  ∃ p', getContext P p fs w = .ok (none, p', w) ∧ p'.context_ = p.context_

theorem kept_iff {p : Processor} {fs : ScriptFile} {w : World} : Kept P p fs w ↔ isFileChange P p fs = false := by
  constructor
  · intro h
    obtain ⟨p', h, -⟩ := h
    rcases getContext_cases h with ⟨hc, -⟩ | ⟨rv, -, hn, -⟩
    · exact hc
    · cases hn
  · intro h
    refine ⟨noteChange P p fs, ?_, rfl⟩
    rw [getContext, h, if_neg (by simp)]

/-- In every run, a `GetContext` that finds the time the one before it found keeps the
    context exactly when that time is 0 in an int or is one. -/
theorem unchanged_kept_iff {s t : Visited} {vs : List Visit} {v : Visit} {mtime : Int64}
    (hrun : run (visit P) s (vs ++ [v]) = .ok t) (hv : v.file.stat = some mtime)
    {scripts : World → World} {fs : ScriptFile} (hfs : fs.stat = some mtime) :
    Kept P t.p fs (scripts t.w) ↔ mtime.toInt32 = 0 ∨ mtime.toInt32.toInt64 = mtime := by
  obtain ⟨u, -, hlast⟩ := run_append_ok.mp hrun
  obtain ⟨t', ht, hnil⟩ := run_cons_ok.mp hlast
  cases hnil
  have hstamp := visit_stamp ht
  rw [getLastChanged, hv, Option.getD_some] at hstamp
  rw [kept_iff, isFileChange, hstamp, getLastChanged, hfs, Option.getD_some]
  by_cases h0 : mtime.toInt32 = 0 <;> simp [h0]

/-- A callback of a processor just loaded, on a file of the year 2024. -/
theorem unchanged_kept_iff_2024 : ∃ t,
    run (visit .reference) ⟨.sample, .empty⟩ [⟨id, ⟨some 0x66000000, true, some [0x61]⟩⟩] = .ok t ∧
    (Kept .reference t.p ⟨some 0x66000000, true, some [0x61]⟩ t.w ↔
      (0x66000000 : Int64).toInt32 = 0 ∨ (0x66000000 : Int64).toInt32.toInt64 = 0x66000000) := by
  obtain ⟨t, h⟩ : ∃ t, run (visit .reference) ⟨.sample, .empty⟩ [⟨id, ⟨some 0x66000000, true, some [0x61]⟩⟩] = .ok t :=
    ⟨_, rfl⟩
  exact ⟨t, h, @unchanged_kept_iff _ _ t [] _ _ h rfl id _ rfl⟩

/-- A processor just initialised, at a callback on a file of the year 2038. -/
theorem late_visit : run (visit .reference) ⟨{ Processor.sample with lastchanged_ := 0 }, .empty⟩
    [⟨id, ⟨some 0x80000000, true, some [0x61]⟩⟩] = .ok ⟨{ Processor.sample with lastchanged_ := -0x80000000 }, .empty⟩ := rfl

/-- From then on the script is loaded at every callback. -/
theorem late_script_reloaded : ¬∀ (s t : Visited) (vs : List Visit) (v : Visit) (mtime : Int64),
    run (visit .reference) s (vs ++ [v]) = .ok t → v.file.stat = some mtime →
    ∀ (scripts : World → World) (fs : ScriptFile), fs.stat = some mtime → Kept .reference t.p fs (scripts t.w) := by
  intro h
  have hk := h _ _ [] _ 0x80000000 late_visit rfl id ⟨some 0x80000000, true, some [0x61]⟩ rfl
  rw [kept_iff] at hk
  exact absurd hk (by decide)

end MesiboV8
