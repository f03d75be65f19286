/-
  MesiboV8.Reload — what `Initialize` leaves of the script that was loaded before.

  An `Initialize` that finds no file leaves the processor's handles alone; any other
  replaces the context before it compiles (`initialize_cases`), and one that then fails
  keeps the old listeners beside it. Along every run of `GetContext`s the handles are
  those of the last good load exactly as long as every reload that failed since found no
  file (`reload_atomic_iff`).
-/

import MesiboV8.Processor

namespace MesiboV8

open Lib.Bytes Lib.Utf

variable {P : Platform}

/-! ## `Initialize` -/

/-- `p'` is `p` with a new context for `source`, and listeners of some kind. -/
def Processor.Rebuilt (p p' : Processor) (source : JsString) : Prop :=
  ∃ onMessage onMessageStatus onLogin, p' = { p with
    context_ := some ⟨p.isolate_, p.sources.length⟩
    sources := p.sources ++ [source]
    jsMesiboOnMessage := onMessage
    jsMesiboOnMessageStatus := onMessageStatus
    jsMesiboOnLogin := onLogin }

theorem executeScript_rebuilt (p : Processor) (script : JsString) (w : World) :
    p.Rebuilt (executeScript P p script w).2.1 script := by
  unfold executeScript
  dsimp only
  split
  · exact ⟨_, _, _, rfl⟩
  · split
    · exact ⟨_, _, _, rfl⟩
    · split <;> exact ⟨_, _, _, rfl⟩

theorem initialize_cases {p p' : Processor} {fs : ScriptFile} {w w' : World} {rv : Int64}
    (h : processorInitialize P p fs w = .ok (rv, p', w')) :
    ((p.script_ = none ∨ fs.access = false) ∧ rv = P.MESIBO_RESULT_FAIL ∧ p' = p) ∨
    (p.script_.isSome ∧ fs.access = true ∧ (rv = P.MESIBO_RESULT_OK ∨ rv = P.MESIBO_RESULT_FAIL) ∧
      ∃ source, readFile P fs = some source ∧ p.Rebuilt p' source) := by
  unfold processorInitialize at h
  dsimp only at h
  split at h
  · rename_i hs
    cases h
    exact .inl ⟨.inl (Option.isNone_iff_eq_none.mp hs), rfl, rfl⟩
  · rename_i hs
    split at h
    · rename_i ha
      cases h
      exact .inl ⟨.inr (by simpa using ha), rfl, rfl⟩
    · rename_i ha
      split at h
      · cases h
      · rename_i source hr
        have hb := executeScript_rebuilt (P := P) p source { w with statics := setCallables p w.statics }
        have hs : p.script_.isSome := by simpa [Option.isSome_iff_ne_none] using hs
        have ha : fs.access = true := by simpa using ha
        split at h
        · cases h; exact .inr ⟨hs, ha, .inr rfl, source, hr, hb⟩
        · cases h; exact .inr ⟨hs, ha, .inl rfl, source, hr, hb⟩

theorem initialize_loaded {p p' : Processor} {fs : ScriptFile} {w w' : World}
    (h : processorInitialize P p fs w = .ok (P.MESIBO_RESULT_OK, p', w')) :
    p.script_.isSome ∧ ∃ source, readFile P fs = some source ∧ p.Rebuilt p' source := by
  rcases initialize_cases h with ⟨-, hf, -⟩ | ⟨hs, -, -, hb⟩
  · exact absurd hf P.ok_ne_fail
  · exact ⟨hs, hb⟩

/-- With a path to a script, the file decides. -/
theorem initialize_scripted {p p' : Processor} {fs : ScriptFile} {w w' : World} {rv : Int64} (hs : p.script_.isSome)
    (h : processorInitialize P p fs w = .ok (rv, p', w')) :
    (fs.access = false ∧ p' = p) ∨ (fs.access = true ∧ ∃ source, readFile P fs = some source ∧ p.Rebuilt p' source) := by
  rcases initialize_cases h with ⟨hm, -, rfl⟩ | ⟨-, ha, -, hb⟩
  · refine .inl ⟨hm.resolve_left fun hn => ?_, rfl⟩
    rw [hn] at hs
    cases hs
  · exact .inr ⟨ha, hb⟩

@[simp] theorem noteChange_script (p : Processor) (fs : ScriptFile) : (noteChange P p fs).script_ = p.script_ := rfl

@[simp] theorem noteChange_context (p : Processor) (fs : ScriptFile) : (noteChange P p fs).context_ = p.context_ := rfl

theorem getContext_cases {p p' : Processor} {fs : ScriptFile} {w w' : World} {st : Option Int64}
    (h : getContext P p fs w = .ok (st, p', w')) :
    (isFileChange P p fs = false ∧ st = none ∧ p' = noteChange P p fs ∧ w' = w) ∨
    ∃ rv, isFileChange P p fs = true ∧ st = some rv ∧ processorInitialize P (noteChange P p fs) fs w = .ok (rv, p', w') := by
  unfold getContext at h
  split at h
  · rename_i hc
    split at h
    · rename_i hi
      cases h
      exact .inr ⟨_, hc, rfl, hi⟩
    · cases h
  · rename_i hc
    cases h
    exact .inl ⟨by simpa using hc, rfl, rfl, rfl⟩

/-! ## Runs -/

/-- What callbacks run with. -/
structure Handles where
  context_ : Option CtxId
  jsMesiboOnMessage : GlobalFunction
  jsMesiboOnMessageStatus : GlobalFunction
  jsMesiboOnLogin : GlobalFunction
  deriving DecidableEq

def Processor.handles (p : Processor) : Handles :=
  ⟨p.context_, p.jsMesiboOnMessage, p.jsMesiboOnMessageStatus, p.jsMesiboOnLogin⟩

/-- A processor that was loaded once: `good` is what its last good load left, and `broken`
    says whether a reload has failed since with the file there. Between the callbacks the
    world changes as it likes. -/
inductive Loaded (P : Platform) : Handles → Bool → Processor → World → Prop
  | init {mod script isolate fs w p w'} :
      processorInitialize P (.new mod script isolate) fs w = .ok (P.MESIBO_RESULT_OK, p, w') →
      Loaded P p.handles false p w'
  | callback {good broken p w fs st p' w'} : Loaded P good broken p w →
      getContext P p fs w = .ok (st, p', w') →
      Loaded P (if st = some P.MESIBO_RESULT_OK then p'.handles else good)
        (if st = some P.MESIBO_RESULT_OK then false
         else broken || (decide (st = some P.MESIBO_RESULT_FAIL) && fs.access)) p' w'
  | world {good broken p w w'} : Loaded P good broken p w → Loaded P good broken p w'

/-- What holds of a loaded processor. -/
structure LoadedInv (good : Handles) (broken : Bool) (p : Processor) : Prop where
  script : p.script_.isSome
  /-- The contexts in use are among those made. -/
  made : ∀ c, p.context_ = some c → c.serial < p.sources.length
  goodMade : ∃ c, good.context_ = some c ∧ c.serial < p.sources.length
  kept : broken = false → p.handles = good
  replaced : broken = true → p.context_ ≠ good.context_

theorem Processor.Rebuilt.context_ne {p p' : Processor} {source : JsString} (h : p.Rebuilt p' source) {c : Option CtxId}
    (hc : ∀ x, c = some x → x.serial < p.sources.length) : p'.context_ ≠ c := by
  obtain ⟨_, _, _, rfl⟩ := h
  intro e
  subst e
  exact absurd (hc _ rfl) (Nat.lt_irrefl _)

theorem Processor.Rebuilt.sources {p p' : Processor} {source : JsString} (h : p.Rebuilt p' source) :
    p'.sources = p.sources ++ [source] := by
  obtain ⟨_, _, _, rfl⟩ := h
  rfl

theorem Processor.Rebuilt.made {p p' : Processor} {source : JsString} (h : p.Rebuilt p' source) :
    ∃ c, p'.context_ = some c ∧ c.serial < p'.sources.length := by
  obtain ⟨_, _, _, rfl⟩ := h
  exact ⟨_, rfl, by simp⟩

theorem Processor.Rebuilt.context_isSome {p p' : Processor} {source : JsString} (h : p.Rebuilt p' source) :
    p'.context_.isSome := by
  obtain ⟨c, hc, -⟩ := h.made
  rw [hc]
  rfl

theorem Processor.Rebuilt.script {p p' : Processor} {source : JsString} (h : p.Rebuilt p' source) :
    p'.script_ = p.script_ := by
  obtain ⟨_, _, _, rfl⟩ := h
  rfl

theorem loaded_init {p p' : Processor} {fs : ScriptFile} {w w' : World}
    (h : processorInitialize P p fs w = .ok (P.MESIBO_RESULT_OK, p', w')) : LoadedInv p'.handles false p' := by
  obtain ⟨hs, source, -, hb⟩ := initialize_loaded h
  obtain ⟨c, hc, hlt⟩ := hb.made
  exact ⟨hb.script ▸ hs, fun x hx => by cases hc.symm.trans hx; exact hlt, ⟨c, hc, hlt⟩, fun _ => rfl, nofun⟩

/-- A failed reload: with the file missing nothing changes, otherwise the context does. -/
theorem loaded_failed {good : Handles} {broken : Bool} {p p' : Processor} {fs : ScriptFile} {w w' : World}
    (hp : LoadedInv good broken p)
    (h : processorInitialize P (noteChange P p fs) fs w = .ok (P.MESIBO_RESULT_FAIL, p', w')) :
    LoadedInv good (broken || fs.access) p' ∧ (p'.handles = p.handles ↔ fs.access = false) := by
  rcases initialize_scripted (p := noteChange P p fs) hp.script h with ⟨ha, rfl⟩ | ⟨ha, source, -, hb⟩
  · simp only [ha, Bool.or_false]
    exact ⟨⟨hp.script, hp.made, hp.goodMade, hp.kept, hp.replaced⟩, ⟨fun _ => trivial, fun _ => rfl⟩⟩
  · obtain ⟨c, hc, hlt⟩ := hb.made
    obtain ⟨g, hg, hgl⟩ := hp.goodMade
    simp only [ha, Bool.or_true]
    refine ⟨⟨hb.script ▸ hp.script, fun x hx => by cases hc.symm.trans hx; exact hlt, ⟨g, hg, ?_⟩, nofun, fun _ => ?_⟩, ?_⟩
    · rw [hb.sources, List.length_append]
      exact Nat.lt_add_right _ hgl
    · exact hb.context_ne fun x hx => by cases hg.symm.trans hx; exact hgl
    · refine ⟨fun he => absurd (congrArg Handles.context_ he) (hb.context_ne hp.made), nofun⟩

theorem Loaded.inv {good : Handles} {broken : Bool} {p : Processor} {w : World} (h : Loaded P good broken p w) :
    LoadedInv good broken p := by
  induction h with
  | init h => exact loaded_init h
  | world _ ih => exact ih
  | @callback good broken p w fs st p' w' _ hg ih =>
    rcases getContext_cases hg with ⟨-, rfl, rfl, -⟩ | ⟨rv, -, rfl, hi⟩
    · simpa using (⟨ih.script, ih.made, ih.goodMade, ih.kept, ih.replaced⟩ : LoadedInv good broken (noteChange P p fs))
    · by_cases hok : rv = P.MESIBO_RESULT_OK
      · subst hok
        simpa using loaded_init hi
      · have hf : rv = P.MESIBO_RESULT_FAIL := by
          rcases initialize_cases hi with ⟨-, hf, -⟩ | ⟨-, -, hf, -⟩
          · exact hf
          · exact hf.resolve_left hok
        subst hf
        simpa [hok] using (loaded_failed ih hi).1

/-- The handles are those of the last good load exactly as long as every reload that has
    failed since found no file; a reload that fails keeps them exactly if it finds no file. -/
theorem reload_atomic_iff {good : Handles} {broken : Bool} {p : Processor} {w : World} (h : Loaded P good broken p w) :
    (p.handles = good ↔ broken = false) ∧
    ∀ fs p' w', getContext P p fs w = .ok (some P.MESIBO_RESULT_FAIL, p', w') →
      (p'.handles = p.handles ↔ fs.access = false) := by
  have hi := h.inv
  refine ⟨⟨fun he => ?_, hi.kept⟩, fun fs p' w' hg => ?_⟩
  · cases broken with
    | false => rfl
    | true => exact absurd (congrArg Handles.context_ he) (hi.replaced rfl)
  · rcases getContext_cases hg with ⟨-, hn, -⟩ | ⟨rv, -, hn, hr⟩
    · cases hn
    · cases hn
      exact (loaded_failed hi hr).2

/-- V8 with scripts that do nothing, of which the empty one does not compile. -/
def Platform.brittle : Platform :=
  { Platform.reference with compile := fun _ script _ => if script.isEmpty then none else some 0 }

/-- A processor that loaded a script and has had a callback since. -/
def Processor.sample : Processor where
  mod_ := 0
  script_ := some "script.js"
  lastchanged_ := 1
  isolate_ := 0
  context_ := some ⟨0, 0⟩
  jsMesiboOnMessage := some .null
  jsMesiboOnMessageStatus := some .null
  jsMesiboOnLogin := some .null
  sources := [[0x61]]

theorem sample_loaded : Loaded .brittle Processor.sample.handles false .sample .empty := by
  have h := Loaded.init (show processorInitialize .brittle (.new 0 (some "script.js") 0)
    ⟨some 1, true, some [0x61]⟩ .empty = .ok (_, _, _) from rfl)
  exact .world (.callback h (show getContext .brittle _ ⟨some 1, true, some [0x61]⟩ _ = .ok (_, _, _) from rfl))

theorem reload_atomic_iff_sample : ∃ p' w', getContext .brittle .sample ⟨some 2, true, some []⟩ .empty =
    .ok (some (-1), p', w') ∧ (p'.handles = Processor.sample.handles ↔ true = false) := by
  obtain ⟨p', w', h⟩ : ∃ p' w', getContext .brittle .sample ⟨some 2, true, some []⟩ .empty =
    .ok (some (-1), p', w') := ⟨_, _, rfl⟩
  exact ⟨p', w', h, (reload_atomic_iff sample_loaded).2 ⟨some 2, true, some []⟩ p' w' h⟩

/-- A script that does not compile leaves its own empty context behind. -/
theorem broken_script_replaces_context : ¬∀ good broken p w, Loaded .brittle good broken p w →
    ∀ fs p' w', getContext .brittle p fs w = .ok (some Platform.brittle.MESIBO_RESULT_FAIL, p', w') →
      p'.handles = p.handles := by
  intro h
  have hg := h _ _ _ _ sample_loaded ⟨some 2, true, some []⟩ _ _ rfl
  exact absurd (congrArg Handles.context_ hg) (by decide)

end MesiboV8
