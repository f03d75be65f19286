/-
  MesiboV8.ReloadFile — a reload over what becomes of the script's file while it is read.

  `initializeRun` and `getContextRun` are `Initialize` and `GetContext` with the `ReadFile`
  of `MesiboV8.ReadFile` in them; where that ends they are those of `MesiboV8.Processor` on
  what it got (`getContextRun_refines`). What `ReadFile` returns is unwrapped before it is
  looked at, so a server comes through a reload exactly if it finds no file, or one it can
  read to the end and V8 can hold (`file_survived_iff`).
-/

import MesiboV8.ReadFile
import MesiboV8.SocketData

namespace MesiboV8

open Lib.Bytes Lib.Loops

variable {P : Platform}

/-! ## `GetContext` on a file -/

/-- What a callback finds at the path of the script, and what reading it comes to. -/
structure FileState where
  stat : Option Int64
  access : Bool
  file : FileRun

/-- The same, of a `ReadFile` that gets `read`. -/
def FileState.seen (fs : FileState) (read : Option (List UInt8)) : ScriptFile := ⟨fs.stat, fs.access, read⟩

section Code

variable (P) (fs : FileState) (fuel : Nat)

/-- `Initialize`; `none`: it is still in `ReadFile`. -/
def initializeRun (p : Processor) (w : World) : Option (Except Abort (Int64 × Processor × World)) :=
  let w := { w with statics := setCallables p w.statics }
  if p.script_.isNone then some (.ok (P.MESIBO_RESULT_FAIL, p, w))
  else if !fs.access then some (.ok (P.MESIBO_RESULT_FAIL, p, w))
  else match readFileRun P fs.file fuel with
    | none => none
    | some (.error e) => some (.error e)
    -- ToLocalChecked comes before the test for null
    | some (.ok none) => some (.error (.fault .toLocalChecked))
    | some (.ok (some source)) =>
      let (rv, p, w) := executeScript P p source w
      if P.MESIBO_RESULT_FAIL = rv then some (.ok (P.MESIBO_RESULT_FAIL, p, w))
      else some (.ok (P.MESIBO_RESULT_OK, p, w))

def getContextRun (p : Processor) (w : World) : Option (Except Abort (Option Int64 × Processor × World)) :=
  if isFileChange P p (fs.seen none) then
    match initializeRun P fs fuel (noteChange P p (fs.seen none)) w with
    | none => none
    | some (.ok (initStatus, p, w)) => some (.ok (some initStatus, p, w))
    | some (.error e) => some (.error e)
  else some (.ok (none, noteChange P p (fs.seen none), w))

end Code

section Refine

variable {fs : FileState} {fuel : Nat} {p : Processor} {w : World}

theorem initializeRun_refines {source : Option JsString} (hr : readFileRun P fs.file fuel = some (.ok source))
    {read : Option (List UInt8)} (hread : read.bind P.newFromUtf8 = source) :
    initializeRun P fs fuel p w = some ((processorInitialize P p (fs.seen read) w).mapError .fault) := by
  have hfile : readFile P (fs.seen read) = source := hread
  unfold initializeRun processorInitialize
  dsimp only
  rw [hr, hfile]
  by_cases hs : p.script_.isNone
  · rw [if_pos hs, if_pos hs]
    rfl
  · rw [if_neg hs, if_neg hs]
    by_cases ha : (!fs.access) = true
    · rw [if_pos ha, if_pos (show (!(fs.seen read).access) = true from ha)]
      rfl
    · rw [if_neg ha, if_neg (show ¬(!(fs.seen read).access) = true from ha)]
      cases source with
      | none => rfl
      | some source => dsimp only; split <;> rfl

/-- Where `ReadFile` ends, the reload is the one on what it got. -/
theorem getContextRun_refines {source : Option JsString} (hr : readFileRun P fs.file fuel = some (.ok source))
    {read : Option (List UInt8)} (hread : read.bind P.newFromUtf8 = source) :
    getContextRun P fs fuel p w = some ((getContext P p (fs.seen read) w).mapError .fault) := by
  have hchange : isFileChange P p (fs.seen read) = isFileChange P p (fs.seen none) := rfl
  have hnote : noteChange P p (fs.seen read) = noteChange P p (fs.seen none) := rfl
  unfold getContextRun getContext
  rw [hchange, hnote, initializeRun_refines hr hread]
  split
  · cases processorInitialize P (noteChange P p (fs.seen none)) (fs.seen read) w <;> rfl
  · rfl

/-- A callback that does not come to `ReadFile`. -/
theorem getContextRun_unread (h : Rebuilds P p (fs.seen none) = false) :
    getContextRun P fs fuel p w = some ((getContext P p (fs.seen none) w).mapError .fault) := by
  unfold getContextRun getContext
  by_cases hc : isFileChange P p (fs.seen none) = true
  · rw [if_pos hc, if_pos hc]
    unfold initializeRun processorInitialize
    dsimp only
    by_cases hs : (noteChange P p (fs.seen none)).script_.isNone = true
    · rw [if_pos hs, if_pos hs]
      rfl
    · have ha : (!fs.access) = true := by
        rw [Rebuilds, hc, Bool.true_and, Bool.and_eq_false_iff] at h
        rcases h with h | h
        · rw [noteChange_script] at hs
          exact absurd (by simpa using h) hs
        · rw [show fs.access = false from h]
          rfl
      rw [if_neg hs, if_neg hs, if_pos ha, if_pos (show (!(fs.seen none).access) = true from ha)]
      rfl
  · rw [if_neg hc, if_neg hc]
    rfl

end Refine

/-! ## Readable files -/

/-- The file opens, has a size there is memory for, comes whole without an error, and is no
    longer than a string, as far as V8 looks. -/
def FileRun.Readable (P : Platform) (f : FileRun) : Prop :=
  f.opens = true ∧ f.ftell ≠ -1 ∧ f.capacity ≤ f.memory ∧
    ∃ n, f.CompleteAt n ∧ (v8Bytes P f.ftell ((f.supplied n).take f.size)).length ≤ P.kMaxLength

/-- `ReadFile` makes a string of exactly the readable files. -/
theorem readFileRun_string_iff (hlong : ∀ b, P.kMaxLength < b.length → P.newFromUtf8 b = none) (f : FileRun) :
    (∃ fuel source, readFileRun P f fuel = some (.ok (some source))) ↔ f.Readable P := by
  constructor
  · intro hx
    obtain ⟨fuel, source, hx⟩ := hx
    unfold readFileRun at hx
    cases hchars : readChars f fuel with
    | none => rw [hchars] at hx; cases hx
    | some r =>
      rw [hchars] at hx
      cases r with
      | error e => cases hx
      | ok o =>
        cases o with
        | none => cases hx
        | some s =>
          obtain ⟨hopen, hne, hmem, hread, hi, hcomplete⟩ := readChars_full hchars
          have hstring : newFromUtf8Len P s.chars f.ftell = some source := by simpa using hx
          rw [newFromUtf8Len_full hne hread hi, hread.read] at hstring
          refine ⟨hopen, hne, hmem, s.calls, hcomplete, Nat.le_of_not_lt fun hlt => ?_⟩
          rw [hlong _ hlt] at hstring
          cases hstring
  · intro h
    obtain ⟨hopen, hne, hmem, n, hn, hlen⟩ := h
    obtain ⟨s, ⟨fuel, hs⟩, hread, hi, hcontent⟩ := reading_complete (capacity_eq hne) hn
    rw [← readChars_open hopen hne hmem] at hs
    obtain ⟨source, hsource⟩ := Option.isSome_iff_exists.mp (P.newFromUtf8_isSome _ hlen)
    refine ⟨fuel, source, ?_⟩
    rw [readFileRun, hs]
    dsimp only
    rw [newFromUtf8Len_full hne hread hi, hcontent, hsource]

theorem readFileRun_bytes {f : FileRun} {fuel : Nat} {source : JsString}
    (h : readFileRun P f fuel = some (.ok (some source))) : ∃ b, P.newFromUtf8 b = some source := by
  unfold readFileRun at h
  split at h
  · cases h
  · cases h
  · cases h
  · rename_i s _
    have hstring : newFromUtf8Len P s.chars f.ftell = some source := by simpa using h
    exact ⟨_, hstring⟩

/-! ## Surviving -/

/-- A callback gets a context, a failure to read the file is reported by `Initialize`, and
    nothing empty is unwrapped. -/
structure SurvivesFile (P : Platform) (p : Processor) (fs : FileState) (w : World) : Prop where
  returns : ∃ fuel st p' w', getContextRun P fs fuel p w = some (.ok (st, p', w')) ∧ p'.context_.isSome
  reported : Rebuilds P p (fs.seen none) → ∀ fuel, readFileRun P fs.file fuel = some (.ok none) →
    ∃ p' w', getContextRun P fs fuel p w = some (.ok (some P.MESIBO_RESULT_FAIL, p', w'))
  unwrapped : ∀ fuel, getContextRun P fs fuel p w ≠ some (.error (.fault .toLocalChecked))

section Survive

variable {fs : FileState} {p : Processor} {w : World}

/-- A running server has a context. -/
theorem Loaded.context {good : Handles} {broken : Bool} (h : Loaded P good broken p w) : p.context_.isSome := by
  induction h with
  | init h =>
    obtain ⟨-, source, -, hb⟩ := initialize_loaded h
    exact hb.context_isSome
  | world _ ih => exact ih
  | callback _ hg ih => exact getContext_ready ih hg

/-- A reload that unwraps a string goes through. -/
theorem getContextRun_string (h : Rebuilds P p (fs.seen none)) {fuel : Nat} {source : JsString}
    (hr : readFileRun P fs.file fuel = some (.ok (some source))) :
    ∃ st p' w', getContextRun P fs fuel p w = some (.ok (st, p', w')) ∧ p'.context_.isSome := by
  obtain ⟨b, hb⟩ := readFileRun_bytes hr
  have hread : (some b).bind P.newFromUtf8 = some source := hb
  have hready : ContextReady P p (fs.seen (some b)) := by
    rw [ContextReady, if_pos (show Rebuilds P p (fs.seen (some b)) from h), readFile]
    exact Option.isSome_iff_exists.mpr ⟨source, hread⟩
  obtain ⟨st, p', w', hg, hc⟩ := (contextReady_iff p _ w).mpr hready
  refine ⟨st, p', w', ?_, hc⟩
  rw [getContextRun_refines hr hread, hg]
  rfl

/-- Any other ends, or goes on, the way `ReadFile` does; an empty string ends it. -/
theorem getContextRun_unwraps (h : Rebuilds P p (fs.seen none)) (fuel : Nat) :
    (∃ source, readFileRun P fs.file fuel = some (.ok (some source))) ∨
      getContextRun P fs fuel p w = match readFileRun P fs.file fuel with
        | none => none
        | some (.error e) => some (.error e)
        | some (.ok _) => some (.error (.fault .toLocalChecked)) := by
  simp only [Rebuilds, Bool.and_eq_true] at h
  obtain ⟨⟨hchange, hscript⟩, haccess⟩ := h
  have hs : ¬(noteChange P p (fs.seen none)).script_.isNone = true := by
    rw [noteChange_script]
    simpa [Option.isSome_iff_ne_none] using hscript
  have ha : ¬(!fs.access) = true := by
    rw [show fs.access = true from haccess]
    decide
  unfold getContextRun initializeRun
  dsimp only
  rw [if_pos hchange, if_neg hs, if_neg ha]
  cases hr : readFileRun P fs.file fuel with
  | none => exact .inr rfl
  | some r =>
    cases r with
    | error e => exact .inr rfl
    | ok o =>
      cases o with
      | none => exact .inr rfl
      | some source => exact .inl ⟨source, rfl⟩

theorem survives_string (h : Rebuilds P p (fs.seen none)) {fuel : Nat} {source : JsString}
    (hr : readFileRun P fs.file fuel = some (.ok (some source))) : SurvivesFile P p fs w := by
  have hstring : ∀ n r, readFileRun P fs.file n = some r → r = .ok (some source) := fun n r hn => readFileRun_unique hn hr
  refine ⟨⟨fuel, getContextRun_string h hr⟩, fun _ n hn => ?_, fun n hn => ?_⟩
  · cases hstring n _ hn
  · cases hread : readFileRun P fs.file n with
    | none =>
      rcases getContextRun_unwraps (w := w) h n with ⟨x, hx⟩ | hends
      · rw [hread] at hx
        cases hx
      · rw [hn, hread] at hends
        cases hends
    | some r =>
      obtain rfl := hstring n r hread
      obtain ⟨st, p', w', hg, -⟩ := getContextRun_string (w := w) h hread
      rw [hg] at hn
      cases hn

theorem survives_unread (h : Rebuilds P p (fs.seen none) = false) (hc : p.context_.isSome) : SurvivesFile P p fs w := by
  have hready : ContextReady P p (fs.seen none) := by
    rw [ContextReady, h]
    exact hc
  obtain ⟨st, p', w', hg, hc'⟩ := (contextReady_iff p _ w).mpr hready
  have hrun : ∀ fuel, getContextRun P fs fuel p w = some (.ok (st, p', w')) := fun fuel => by
    rw [getContextRun_unread h, hg]
    rfl
  refine ⟨⟨0, st, p', w', hrun 0, hc'⟩, fun hn => ?_, fun fuel hn => ?_⟩
  · rw [h] at hn
    cases hn
  · rw [hrun fuel] at hn
    cases hn

/-- A running server comes through any state of its script's file exactly if it leaves the
    file alone or the file is readable. -/
theorem file_survived_iff (hlong : ∀ b, P.kMaxLength < b.length → P.newFromUtf8 b = none) {good : Handles} {broken : Bool}
    (h : Loaded P good broken p w) (fs : FileState) :
    SurvivesFile P p fs w ↔ (Rebuilds P p (fs.seen none) → fs.file.Readable P) := by
  constructor
  · intro hx hreb
    obtain ⟨fuel, st, p', w', hg, -⟩ := hx.returns
    refine (readFileRun_string_iff hlong fs.file).mp ⟨fuel, ?_⟩
    rcases getContextRun_unwraps (w := w) hreb fuel with hstring | hends
    · exact hstring
    · rw [hg] at hends
      split at hends <;> cases hends
  · intro hx
    cases hreb : Rebuilds P p (fs.seen none) with
    | true =>
      obtain ⟨fuel, source, hr⟩ := (readFileRun_string_iff hlong fs.file).mpr (hx hreb)
      exact survives_string hreb hr
    | false => exact survives_unread hreb h.context

end Survive

/-- A file of one byte. -/
def FileRun.oneByte : FileRun where
  opens := true
  ftell := 1
  ftell_ge := by decide
  memory := 2
  junk := fun _ => 0
  fread := fun _ => ⟨[0x61], false⟩

/-- A file that is there, but may not be read. -/
def FileRun.unreadable : FileRun := { FileRun.oneByte with opens := false }

/-- A server that has had a callback since it loaded its script. -/
theorem bounded_loaded : ∃ good p w, Loaded .bounded good false p w ∧
    ∀ file, Rebuilds .bounded p (FileState.seen ⟨some 2, true, file⟩ none) = true := by
  have h := Loaded.init (show processorInitialize .bounded (.new 0 (some "script.js") 0)
    ⟨some 1, true, some [0x61]⟩ .empty = .ok (_, _, _) from rfl)
  have h₁ := h.callback (show getContext .bounded _ ⟨some 1, true, some [0x61]⟩ _ = .ok (_, _, _) from rfl)
  exact ⟨_, _, _, h₁, fun _ => rfl⟩

theorem bounded_empty (b : List UInt8) (h : Platform.bounded.kMaxLength < b.length) :
    Platform.bounded.newFromUtf8 b = none := if_neg (Nat.not_le_of_lt h)

theorem oneByte_readable : FileRun.oneByte.Readable .bounded :=
  ⟨rfl, by decide, by decide, 1, ⟨by decide, fun _ _ => rfl⟩, by decide⟩

theorem file_survived_iff_oneByte : ∃ p w, SurvivesFile .bounded p ⟨some 2, true, .oneByte⟩ w := by
  obtain ⟨good, p, w, h, -⟩ := bounded_loaded
  exact ⟨p, w, (file_survived_iff bounded_empty h _).mpr fun _ => oneByte_readable⟩

/-- A reload of a file without read permission ends the process. -/
theorem unreadable_file_aborts : ¬∀ good broken p w, Loaded .bounded good broken p w →
    ∀ fs, SurvivesFile .bounded p fs w := by
  intro hall
  obtain ⟨good, p, w, h, hreb⟩ := bounded_loaded
  obtain ⟨fuel, st, p', w', hg, -⟩ := (hall good false p w h ⟨some 2, true, .unreadable⟩).returns
  have hempty : readFileRun .bounded .unreadable fuel = some (.ok none) := rfl
  rcases getContextRun_unwraps (w := w) (hreb .unreadable) fuel with ⟨source, hs⟩ | hends
  · cases hempty.symm.trans hs
  · rw [hg, hempty] at hends
    cases hends

end MesiboV8
