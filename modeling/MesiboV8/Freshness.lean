/-
  MesiboV8.Freshness — which edits of the script a callback sees.

  `GetContext` compares the time of the file with `lastchanged_`, the time the callback
  before it found, cut to 32 bits; 0 stands for no callback yet. `History` says that in
  terms of the run: the last time found and the content the last context was built from.
  A callback runs the current content exactly when its reload triggers or that content is
  the current one (`sees_current_iff`). The first callback never reloads, nor does one
  after a time whose low 32 bits are 0, nor one whose file's time equals the last one's
  low 32 bits, sign-extended.
-/

import MesiboV8.Lib.Runs
import MesiboV8.Reload

namespace MesiboV8

open Lib.Bytes Lib.Utf Lib.Runs

variable {P : Platform}

/-! ## The system -/

/-- The file of the script: `st_mtime` and bytes. `none` while it is away. -/
abbrev DiskFile := Option (Int64 × List UInt8)

/-- What a callback finds. -/
def DiskFile.onDisk (f : DiskFile) : ScriptFile := ⟨f.map (·.1), f.isSome, f.map (·.2)⟩

structure Live where
  file : DiskFile
  p : Processor
  w : World

inductive LiveEvent where
  | edit (f : DiskFile)
  /-- A callback: `GetContext`, and then `after`. -/
  | callback (after : World → World)

def liveStep (P : Platform) (s : Live) : LiveEvent → Except Fault Live
  | .edit f => .ok { s with file := f }
  | .callback after =>
    match getContext P s.p s.file.onDisk s.w with
    | .ok (_, p, w) => .ok { s with p := p, w := after w }
    | .error f => .error f

/-- The context's script is the current content. -/
def Current (P : Platform) (p : Processor) (f : DiskFile) : Prop :=
  ∃ context source, p.context_ = some context ∧ readFile P f.onDisk = some source ∧
    p.sources[context.serial]? = some source

/-- `Initialize` would succeed on the current content. -/
def Loads (P : Platform) (s : Live) : Prop :=
  ∃ p w, processorInitialize P s.p s.file.onDisk s.w = .ok (P.MESIBO_RESULT_OK, p, w)

/-! ## Its history -/

structure History where
  file : DiskFile
  /-- The time the last callback found. -/
  stamp : Option Int64
  /-- The content the last context was built from. -/
  built : Option JsString

/-- The time found last tells the current one apart. -/
def History.reloads (P : Platform) (h : History) : Bool :=
  match h.stamp with
  | none => false
  | some t => t.toInt32 ≠ 0 && t.toInt32.toInt64 ≠ getLastChanged P h.file.onDisk

def History.next (P : Platform) (h : History) : LiveEvent → History
  | .edit f => { h with file := f }
  | .callback _ => { h with
      stamp := some (getLastChanged P h.file.onDisk)
      built := if h.reloads P then (readFile P h.file.onDisk).or h.built else h.built }

/-- What a state knows of its history. -/
structure Tracks (P : Platform) (s : Live) (h : History) : Prop where
  file : s.file = h.file
  stamp : s.p.lastchanged_ = (h.stamp.map Int64.toInt32).getD 0
  script : s.p.script_.isSome
  built : ∃ context source, s.p.context_ = some context ∧ s.p.sources[context.serial]? = some source ∧
    h.built = some source

theorem Tracks.reloads {s : Live} {h : History} (ht : Tracks P s h) :
    isFileChange P s.p s.file.onDisk = h.reloads P := by
  unfold isFileChange History.reloads
  rw [ht.file, ht.stamp]
  cases h.stamp with
  | none => simp
  | some t => rfl

theorem Processor.Rebuilt.built {p p' : Processor} {source : JsString} (h : p.Rebuilt p' source) :
    ∃ context, p'.context_ = some context ∧ p'.sources[context.serial]? = some source := by
  obtain ⟨_, _, _, rfl⟩ := h
  exact ⟨_, rfl, by simp⟩

theorem readFile_missing {f : DiskFile} (h : f.onDisk.access = false) : readFile P f.onDisk = none := by
  cases f with
  | none => rfl
  | some f => cases h

/-- A callback finds the time its history says, and builds what it says. -/
theorem getContext_tracks {s : Live} {h : History} (ht : Tracks P s h) {st : Option Int64} {p' : Processor}
    {w' : World} (hg : getContext P s.p s.file.onDisk s.w = .ok (st, p', w')) (after : World → World) :
    Tracks P ⟨s.file, p', w'⟩ (h.next P (.callback after)) := by
  have hr := ht.reloads
  have hst : (noteChange P s.p s.file.onDisk).lastchanged_ =
      ((h.next P (.callback after)).stamp.map Int64.toInt32).getD 0 := by rw [ht.file]; rfl
  obtain ⟨context, source, hc, hs, hb⟩ := ht.built
  rcases getContext_cases hg with ⟨hn, rfl, rfl, rfl⟩ | ⟨rv, hn, rfl, hi⟩
  · rw [hn] at hr
    refine ⟨ht.file, hst, ht.script, context, source, hc, hs, ?_⟩
    simp [History.next, ← hr, hb]
  · rw [hn] at hr
    rcases initialize_scripted (p := noteChange P s.p s.file.onDisk) ht.script hi with ⟨ha, rfl⟩ | ⟨-, source', hread, hbuilt⟩
    · refine ⟨ht.file, hst, ht.script, context, source, hc, hs, ?_⟩
      simp [History.next, ← hr, ← ht.file, readFile_missing ha, hb]
    · obtain ⟨c, hc, hs⟩ := hbuilt.built
      refine ⟨ht.file, ?_, hbuilt.script ▸ ht.script, c, source', hc, hs, ?_⟩
      · obtain ⟨_, _, _, rfl⟩ := hbuilt
        exact hst
      · simp [History.next, ← hr, ← ht.file, hread]

theorem live_tracks {s t : Live} {h : History} {e : LiveEvent} (ht : Tracks P s h) (hs : liveStep P s e = .ok t) :
    Tracks P t (h.next P e) := by
  cases e with
  | edit f => cases hs; exact ⟨rfl, ht.stamp, ht.script, ht.built⟩
  | callback after =>
    rw [liveStep] at hs
    split at hs
    · rename_i st p' w' hg
      cases hs
      obtain ⟨hf, hst, hsc, hb⟩ := getContext_tracks ht hg after
      exact ⟨hf, hst, hsc, hb⟩
    · cases hs

/-! ## What a callback sees -/

/-- The current content is the one last built, or the last time found tells it apart. -/
def History.Seen (P : Platform) (h : History) : Prop :=
  h.reloads P = true ∨ h.built = readFile P h.file.onDisk

theorem getContext_current {s : Live} {h : History} (ht : Tracks P s h) (hl : Loads P s) {st : Option Int64}
    {p' : Processor} {w' : World} (hg : getContext P s.p s.file.onDisk s.w = .ok (st, p', w')) :
    Current P p' s.file ↔ h.Seen P := by
  obtain ⟨source, hread⟩ : ∃ source, readFile P s.file.onDisk = some source := by
    obtain ⟨p, w, hi⟩ := hl
    obtain ⟨-, source, hread, -⟩ := initialize_loaded hi
    exact ⟨source, hread⟩
  obtain ⟨-, -, -, c, built, hc, hs, hb⟩ := getContext_tracks ht hg id
  have hcur : Current P p' s.file ↔ built = source := by
    constructor
    · intro hx
      obtain ⟨c', x, hc', hx, hs'⟩ := hx
      cases hc.symm.trans hc'
      cases hread.symm.trans hx
      exact Option.some.inj (hs.symm.trans hs')
    · intro e
      subst e
      exact ⟨c, _, hc, hread, hs⟩
  rw [hcur]
  unfold History.Seen
  rw [← ht.file, hread]
  rw [History.next, ← ht.file, hread] at hb
  cases hr : h.reloads P with
  | true => simpa [hr, eq_comm] using hb
  | false =>
    rw [hr] at hb
    simp only [Bool.false_eq_true, if_false] at hb
    simp [hb]

/-- A callback runs the current content, where that loads, exactly when the last context
    was built from it or the time the last callback found tells it apart. -/
theorem sees_current_iff {mod : ModId} {script : Option String} {isolate : IsolateId} {file : DiskFile} {w₀ w : World}
    {p : Processor} (hi : processorInitialize P (.new mod script isolate) file.onDisk w₀ = .ok (P.MESIBO_RESULT_OK, p, w))
    {es : List LiveEvent} {s : Live} (hrun : run (liveStep P) ⟨file, p, w⟩ es = .ok s) (hl : Loads P s)
    {st : Option Int64} {p' : Processor} {w' : World}
    (hg : getContext P s.p s.file.onDisk s.w = .ok (st, p', w')) :
    Current P p' s.file ↔ (es.foldl (History.next P) ⟨file, none, readFile P file.onDisk⟩).Seen P := by
  refine getContext_current ?_ hl hg
  have hstep : ∀ s e t h, Tracks P s h → liveStep P s e = .ok t → Tracks P t (h.next P e) :=
    fun _ _ _ _ ht hs => live_tracks ht hs
  refine run_rel hstep ?_ hrun
  obtain ⟨hs, source, hread, hbuilt⟩ := initialize_loaded hi
  obtain ⟨c, hc, hsrc⟩ := hbuilt.built
  refine ⟨rfl, ?_, hbuilt.script ▸ hs, c, source, hc, hsrc, hread⟩
  obtain ⟨_, _, _, rfl⟩ := hbuilt
  rfl

/-- A processor just initialised from a file of the one byte 0x61. -/
def Processor.fresh : Processor := { Processor.sample with lastchanged_ := 0 }

theorem sees_current_iff_sample : ∃ st p' w',
    getContext .reference .sample (DiskFile.onDisk (some (2, [0x62]))) .empty = .ok (st, p', w') ∧
    (Current .reference p' (some (2, [0x62])) ↔
      History.Seen .reference ⟨some (2, [0x62]), some 1, some [0x61]⟩) := by
  obtain ⟨w, hi⟩ : ∃ w, processorInitialize .reference (.new 0 (some "script.js") 0)
    (DiskFile.onDisk (some (1, [0x61]))) .empty = .ok (Platform.reference.MESIBO_RESULT_OK, .fresh, w) := ⟨_, rfl⟩
  have hrun : run (liveStep .reference) ⟨some (1, [0x61]), .fresh, w⟩
    [.callback fun _ => .empty, .edit (some (2, [0x62]))] = .ok ⟨some (2, [0x62]), .sample, .empty⟩ := rfl
  obtain ⟨st, p', w', hg⟩ : ∃ st p' w', getContext .reference .sample (DiskFile.onDisk (some (2, [0x62]))) .empty =
    .ok (st, p', w') := ⟨_, _, _, rfl⟩
  exact ⟨st, p', w', hg, sees_current_iff hi hrun ⟨_, _, rfl⟩ hg⟩

/-- Every edit that changes the content gives the file a time not used before. -/
def Disciplined : List Int64 → List UInt8 → List LiveEvent → Prop
  | _, _, [] => True
  | used, bytes, .callback _ :: es => Disciplined used bytes es
  | used, bytes, .edit none :: es => Disciplined used bytes es
  | used, bytes, .edit (some (t, b)) :: es => (b ≠ bytes → t ∉ used) ∧ Disciplined (t :: used) b es

/-- An edit before the first callback is missed. -/
theorem first_edit_missed : ¬∀ t b p w, processorInitialize .reference (.new 0 (some "script.js") 0)
      (DiskFile.onDisk (some (t, b))) .empty = .ok (Platform.reference.MESIBO_RESULT_OK, p, w) →
    ∀ es s, Disciplined [t] b es → run (liveStep .reference) ⟨some (t, b), p, w⟩ es = .ok s → Loads .reference s →
      ∀ st p' w', getContext .reference s.p s.file.onDisk s.w = .ok (st, p', w') → Current .reference p' s.file := by
  intro h
  obtain ⟨c, source, hc, hread, hs⟩ := h 1 [0x61] _ _ rfl [.edit (some (2, [0x62]))] _ ⟨by decide, trivial⟩ rfl
    ⟨_, _, rfl⟩ _ _ _ rfl
  cases hc
  cases hread
  exact absurd hs (by decide)

end MesiboV8
