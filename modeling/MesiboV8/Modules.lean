/-
  MesiboV8.Modules — the modules of a process, side by side.

  A call of the host goes through the processor of one module or of none (`Event.visits?`),
  and only a module's own initialisation gives it another processor. So in any run a
  module's processor is what visits have made of the one its last successful initialisation
  made, each with the file that one of its own calls found, in their order (`run_visits`):
  what holds of every run of visits holds of each module of a process. Which contents of the
  script it has loaded follows from these files alone (`run_loads`), whatever other modules
  and the scripts do in between. A context is one module's, and is left for good with the next
  load (`run_contexts`).
-/

import MesiboV8.Lifetimes
import MesiboV8.Visits

namespace MesiboV8

open Lib.Bytes Lib.Utf Lib.Effects Lib.Runs Act Relation

variable {P : Platform}

/-! ## One call -/

/-- The module whose processor a call goes through, and the file it finds. -/
def Event.visits? (P : Platform) (s : System) : Event → Option (ModId × ScriptFile)
  | .message mod _ _ _ fs | .messageStatus mod _ _ fs => some (mod, fs)
  | .httpClose a result fs =>
    if P.MESIBO_RESULT_FAIL = result then none else ((s.world.https a).bind (·.mod)).map (·, fs)
  | _ => none

/-- The processor of `m` is visited, at some point between `s` and `t`. -/
def Visits (P : Platform) (m : ModId) (fs : ScriptFile) (s t : System) : Prop :=
  ∃ p p' st u v, s.processor m = some p ∧ HostEffects s.world u ∧ getContext P p fs u = .ok (st, p', v) ∧
    HostEffects v t.world ∧ t.processor = Function.update s.processor m (some p')

/-- The module is initialised in `s`, with success, and gets the processor `p`. -/
structure Initialises (P : Platform) (m : ModId) (script : String) (fs : ScriptFile) (p : Processor) (s t : System) :
    Prop where
  loads : processorInitialize P (.new m (some script) s.nextIsolate) fs { s.world with live := .str :: s.world.live } =
    .ok (P.MESIBO_RESULT_OK, p, t.world)
  processor : t.processor = Function.update s.processor m (some p)

/-- An initialisation is OK and gives the module a processor, or has failed and leaves every `ctx` as it was. -/
theorem initialisation_outcome {m : ModId} {config : Option ModuleConfig} {fs : ScriptFile} {s t : System} {rv : Int64}
    (h : mesiboModuleV8Init P m config fs s = .ok (rv, t)) :
    (rv = P.MESIBO_RESULT_OK ∧ ∃ script log p, config = some ⟨some script, some log⟩ ∧ Initialises P m script fs p s t) ∨
    (rv = P.MESIBO_RESULT_FAIL ∧ t.configs = s.configs) := by
  rcases initialisation_returns h with ⟨-, rfl, rfl⟩ |
    ⟨script, log, rv', p, w, rfl, -, hi, ⟨-, rfl, rfl⟩ | ⟨hf, rfl, rfl⟩⟩
  · exact .inr ⟨rfl, rfl⟩
  · exact .inr ⟨rfl, rfl⟩
  · have hrv : rv' = P.MESIBO_RESULT_OK := by
      rcases initialize_cases hi with ⟨-, hn, -⟩ | ⟨-, -, hok, -⟩
      · exact absurd hn hf
      · exact hok.resolve_right hf
    subst hrv
    exact .inl ⟨rfl, script, log, p, rfl, hi, processor_put _ _ _ _⟩

theorem onclose_visits {s t : System} {a : Addr} {b : HttpContext} {mod : ModId} {mp : Processor} {result : Int64}
    {fs : ScriptFile} (hr : P.MESIBO_RESULT_FAIL ≠ result) (hb : s.world.https a = some b) (hm : b.mod = some mod)
    (hmp : s.processor mod = some mp) (h : jsMesiboHttpOnclose P a result fs s = .ok t) :
    ∃ st mp' u w, getContext P mp fs s.world = .ok (st, mp', u) ∧
      deliverResponse P mp'.context_ a u = .ok ((), w) ∧ t = s.lock.putProcessor mod mp' w := by
  obtain ⟨vc, hvc, hctx⟩ := Option.bind_eq_some_iff.mp hmp
  simp only [jsMesiboHttpOnclose, if_neg hr, hb, hm, hvc, hctx] at h
  split at h
  · cases h
  rename_i hg
  split at h
  · cases h
  rename_i hd
  cases h
  exact ⟨_, _, _, _, hg, hd, rfl⟩

/-- A call visits the module it goes through; any other leaves all processors, or initialises
    a module. -/
theorem step_visits (hP : P.Sandboxed) {e : Event} {s t : System} (hs : s.Sound) (h : step P s e = .ok t) :
    (∃ m fs, e.visits? P s = some (m, fs) ∧ Visits P m fs s t) ∨
    (e.visits? P s = none ∧ (t.processor = s.processor ∨
      ∃ m script log fs p, e = .moduleInit m (some ⟨some script, some log⟩) fs ∧ Initialises P m script fs p s t)) := by
  cases e with
  | moduleInit m config fs =>
    obtain ⟨rv, h⟩ := returned_ok.mp h
    refine .inr ⟨rfl, ?_⟩
    rcases initialisation_outcome h with ⟨-, script, log, p, rfl, hi⟩ | ⟨-, hc⟩
    · exact .inr ⟨m, script, log, fs, p, rfl, hi⟩
    · refine .inl (funext fun x => ?_)
      rw [System.processor, System.processor, hc]
  | message m p message len fs =>
    obtain ⟨rv, h⟩ := returned_ok.mp h
    obtain ⟨mp, mp', w, hm, ho, rfl⟩ := v8OnMessage_cases h
    obtain ⟨st, u, context, o, v, jsFun, hg, -, hp, -, hw⟩ := onMessage_cases ho
    refine .inl ⟨m, fs, rfl, mp, mp', st, _, u, hm, (copies_effects (.message m p message len fs) s.world).host, hg, ?_,
      processor_put _ _ _ _⟩
    have hv := (ctoJMessageParams_effects hp).host
    rcases hw with ⟨-, rfl⟩ | hw
    · exact hv
    · exact hv.trans (execute_effects hP hw)
  | messageStatus m p status fs =>
    obtain ⟨rv, h⟩ := returned_ok.mp h
    obtain ⟨mp, mp', w, hm, ho, rfl⟩ := v8OnMessageStatus_cases h
    obtain ⟨st, u, context, o, v, jsFun, hg, -, hp, hw⟩ := onMessageStatus_cases ho
    refine .inl ⟨m, fs, rfl, mp, mp', st, _, u, hm, (copies_effects (.messageStatus m p status fs) s.world).host, hg, ?_,
      processor_put _ _ _ _⟩
    have hv := (ctoJMessageParams_effects hp).host
    rcases hw with rfl | hw
    · exact hv
    · exact hv.trans (execute_effects hP hw)
  | httpData a state progress buffer size =>
    obtain ⟨rv, w, -, rfl⟩ := exec_ok.mp h
    exact .inr ⟨rfl, .inl rfl⟩
  | httpStatus a status responseType =>
    obtain ⟨rv, w, -, rfl⟩ := exec_ok.mp h
    exact .inr ⟨rfl, .inl rfl⟩
  | httpClose a result fs =>
    rcases hs.close_cases hP h with ⟨rfl, rfl⟩ | ⟨b, mod, o, mp, -, -, -, -, hr, hb, harm, hmp, -, -, -⟩
    · exact .inr ⟨if_pos rfl, .inl rfl⟩
    · obtain ⟨st, mp', u, w, hg, hd, rfl⟩ := onclose_visits (Ne.symm hr) hb harm.mod hmp h
      refine .inl ⟨mod, fs, ?_, mp, mp', st, _, u, hmp, .refl, hg, deliverResponse_effects hP _ _ _ _ _ hd,
        processor_put _ _ _ _⟩
      rw [Event.visits?, if_neg (Ne.symm hr), hb, Option.bind_some, harm.mod]
      rfl

/-! ## Runs -/

/-- Visits with these files, among effects of the host's calls, lead from `p` in `v` to `p'` in `w`. -/
def Becomes (P : Platform) (p : Processor) (v : World) (files : List ScriptFile) (p' : Processor) (w : World) : Prop :=
  ∃ vs u, vs.map (·.file) = files ∧ run (visit P) ⟨p, v⟩ vs = .ok ⟨p', u⟩ ∧
    Along (visit P) (fun s x _ => HostEffects s.w (x.scripts s.w)) ⟨p, v⟩ vs ∧ HostEffects u w

namespace Becomes

variable {p p' p'' : Processor} {v w u w' : World} {files : List ScriptFile} {fs : ScriptFile} {st : Option Int64}

theorem refl (p : Processor) (v : World) : Becomes P p v [] p v := ⟨[], v, rfl, rfl, trivial, .refl⟩

theorem effects (h : Becomes P p v files p' w) (hw : HostEffects w w') : Becomes P p v files p' w' := by
  obtain ⟨vs, x, hf, hr, ha, hx⟩ := h
  exact ⟨vs, x, hf, hr, ha, hx.trans hw⟩

theorem visit (h : Becomes P p v files p' w) (hu : HostEffects w u) (hg : getContext P p' fs u = .ok (st, p'', w')) :
    Becomes P p v (files ++ [fs]) p'' w' := by
  obtain ⟨vs, x, hf, hr, ha, hx⟩ := h
  have hlast : MesiboV8.visit P ⟨p', x⟩ ⟨fun _ => u, fs⟩ = .ok ⟨p'', w'⟩ := visit_ok.mpr ⟨st, hg⟩
  refine ⟨vs ++ [⟨fun _ => u, fs⟩], w', ?_, ?_, ha.snoc hr fun _ _ => hx.trans hu, .refl⟩
  · rw [List.map_append, hf]
    rfl
  · exact run_append_ok.mpr ⟨_, hr, run_cons_ok.mpr ⟨_, hlast, rfl⟩⟩

end Becomes

/-- The files the calls find for the module. -/
def Event.filesFor (P : Platform) (m : ModId) (s : System) (e : Event) : List ScriptFile :=
  ((e.visits? P s).toList.filter (·.1 = m)).map (·.2)

/-- Of the calls `es` from the start to `s`, one takes `r` to `t` and initialises the module, and those after it
    find `files` for the module. -/
def Since (P : Platform) (m : ModId) (script : String) (fs : ScriptFile) (r t : System) (files : List ScriptFile)
    (es : List Event) (s : System) : Prop :=
  ∃ before after log outs, es = before ++ .moduleInit m (some ⟨some script, some log⟩) fs :: after ∧
    run (step P) .start before = .ok r ∧ step P r (.moduleInit m (some ⟨some script, some log⟩) fs) = .ok t ∧
    Logged (step P) (fun s e l _ => l = e.filesFor P m s) t after outs s ∧ files = outs.flatten

theorem Since.next {m : ModId} {script : String} {fs : ScriptFile} {r t s u : System} {files : List ScriptFile}
    {es : List Event} {e : Event} (h : Since P m script fs r t files es s) (hu : step P s e = .ok u) :
    Since P m script fs r t (files ++ e.filesFor P m s) (es ++ [e]) u := by
  obtain ⟨before, after, log, outs, rfl, hr, ht, hl, rfl⟩ := h
  refine ⟨before, after ++ [e], log, outs ++ [e.filesFor P m s], ?_, hr, ht, hl.snoc hu rfl, ?_⟩
  · rw [List.append_assoc, List.cons_append]
  · rw [List.flatten_append, List.flatten_singleton]

/-- The processor comes from a successful initialisation, by visits that find what the calls since then find. -/
def Served (P : Platform) (m : ModId) (es : List Event) (s : System) (p : Processor) : Prop :=
  ∃ script fs p₀ r t files, Since P m script fs r t files es s ∧ Initialises P m script fs p₀ r t ∧
    Becomes P p₀ t.world files p s.world

section Served

variable {m : ModId} {es : List Event} {s t : System} {p p' : Processor} {e : Event}

theorem Served.foreign (h : Served P m es s p) (ht : step P s e = .ok t) (he : e.filesFor P m s = [])
    (hw : HostEffects s.world t.world) : Served P m (es ++ [e]) t p := by
  obtain ⟨script, fs, p₀, r, x, files, hs, hi, hb⟩ := h
  have hs := hs.next ht
  rw [he, List.append_nil] at hs
  exact ⟨script, fs, p₀, r, x, files, hs, hi, hb.effects hw⟩

theorem Served.visited {fs : ScriptFile} {st : Option Int64} {u v : World} (h : Served P m es s p)
    (ht : step P s e = .ok t) (he : e.filesFor P m s = [fs]) (hu : HostEffects s.world u)
    (hg : getContext P p fs u = .ok (st, p', v)) (hv : HostEffects v t.world) : Served P m (es ++ [e]) t p' := by
  obtain ⟨script, file, p₀, r, x, files, hs, hi, hb⟩ := h
  exact ⟨script, file, p₀, r, x, files ++ [fs], he ▸ hs.next ht, hi, (hb.visit hu hg).effects hv⟩

theorem Initialises.served {script log : String} {fs : ScriptFile} (h : Initialises P m script fs p s t)
    (hs : run (step P) .start es = .ok s) (ht : step P s (.moduleInit m (some ⟨some script, some log⟩) fs) = .ok t) :
    Served P m (es ++ [.moduleInit m (some ⟨some script, some log⟩) fs]) t p :=
  ⟨script, fs, p, s, t, [], ⟨es, [], log, [], rfl, hs, ht, .nil t, rfl⟩, h, .refl p t.world⟩

end Served

/-- Seen from one of its modules, a process is a run of visits. -/
theorem run_visits (hP : P.Sandboxed) {es : List Event} {s : System} (h : run (step P) .start es = .ok s) {m : ModId}
    {p : Processor} (hp : s.processor m = some p) : Served P m es s p := by
  suffices h' : run (step P) .start es = .ok s ∧ ∀ m p, s.processor m = some p → Served P m es s p from h'.2 m p hp
  refine run_history (R := fun es s => run (step P) .start es = .ok s ∧ ∀ m p, s.processor m = some p → Served P m es s p)
    ⟨rfl, fun _ _ h => by cases h⟩ ?_ h
  intro past s e t hs hpast ht
  obtain ⟨hrun, ih⟩ := hpast
  refine ⟨run_append_ok.mpr ⟨s, hrun, run_cons_ok.mpr ⟨t, ht, rfl⟩⟩, fun m p hp => ?_⟩
  have hw := step_effects hP ht
  rcases step_visits hP (run_sound hP hrun) ht with ⟨x, fs, hv, q, q', st, u, v, hq, hu, hg, hv', hproc⟩ | ⟨hv, hproc⟩
  · rw [hproc] at hp
    rcases update_some hp with ⟨rfl, hx⟩ | ⟨e, hp⟩
    · cases hx
      exact (ih m q hq).visited ht (by simp [Event.filesFor, hv]) hu hg hv'
    · exact (ih m p hp).foreign ht (by simp [Event.filesFor, hv, Ne.symm e]) hw
  · have hfiles : e.filesFor P m s = [] := by simp [Event.filesFor, hv]
    rcases hproc with hproc | ⟨x, script, log, fs, q, rfl, hi⟩
    · exact (ih m p (hproc ▸ hp)).foreign ht hfiles hw
    · rw [hi.processor] at hp
      rcases update_some hp with ⟨rfl, hx⟩ | ⟨-, hp⟩
      · cases hx
        exact hi.served hrun ht
      · exact (ih m p hp).foreign ht hfiles hw

theorem run_visits_fetching : ∃ s p, run (step .fetching) .start fetchingRun = .ok s ∧ s.processor 0 = some p ∧
    Served .fetching 0 fetchingRun s p := by
  obtain ⟨s, p, h, hp⟩ : ∃ s p, run (step .fetching) .start fetchingRun = .ok s ∧ s.processor 0 = some p := ⟨_, _, rfl, rfl⟩
  exact ⟨s, p, h, hp, run_visits (Platform.calling_sandboxed _) h hp⟩

/-! ## Loads -/

/-- The time found last, and the contents loaded. -/
structure Loading where
  lastchanged : Int32
  sources : List JsString

def Processor.loading (p : Processor) : Loading := ⟨p.lastchanged_, p.sources⟩

/-- A visit loads what it finds where the time found last tells it apart. -/
def Loading.next (P : Platform) (l : Loading) (fs : ScriptFile) : Loading where
  lastchanged := (getLastChanged P fs).toInt32
  sources := if l.lastchanged ≠ 0 ∧ l.lastchanged.toInt64 ≠ getLastChanged P fs ∧ fs.access = true
    then l.sources ++ (readFile P fs).toList else l.sources

/-- The context is the one made for the contents loaded last. -/
def Processor.Newest (p : Processor) : Prop :=
  ∃ l source, p.sources = l ++ [source] ∧ p.context_ = some ⟨p.isolate_, l.length⟩

/-- What no load changes. -/
def Processor.identity (p : Processor) : ModId × Option String × IsolateId := (p.mod_, p.script_, p.isolate_)

section Rebuilt

variable {p p' : Processor} {source : JsString} (h : p.Rebuilt p' source)

include h

theorem Processor.Rebuilt.identity : p'.identity = p.identity := by
  obtain ⟨_, _, _, rfl⟩ := h
  rfl

theorem Processor.Rebuilt.newest : p'.Newest := by
  obtain ⟨_, _, _, rfl⟩ := h
  exact ⟨p.sources, source, rfl, rfl⟩

end Rebuilt

theorem isFileChange_iff {p : Processor} {fs : ScriptFile} : isFileChange P p fs = true ↔
    p.lastchanged_ ≠ 0 ∧ p.lastchanged_.toInt64 ≠ getLastChanged P fs := by
  simp [isFileChange]

theorem getContext_loads {p p' : Processor} {fs : ScriptFile} {w w' : World} {st : Option Int64} (hs : p.script_.isSome)
    (h : getContext P p fs w = .ok (st, p', w')) :
    p'.loading = p.loading.next P fs ∧ p'.identity = p.identity ∧ (p.Newest → p'.Newest) := by
  have hstamp := getContext_stamp h
  have hload : ∀ l, p'.sources = l → l = (p.loading.next P fs).sources → p'.loading = p.loading.next P fs := by
    intro l hl hn
    rw [Processor.loading, hstamp, hl, hn]
    rfl
  rcases getContext_cases h with ⟨hn, -, rfl, -⟩ | ⟨rv, hn, -, hi⟩
  · refine ⟨hload _ rfl (if_neg fun hc => ?_).symm, rfl, fun hx => hx⟩
    rw [isFileChange_iff.mpr ⟨hc.1, hc.2.1⟩] at hn
    cases hn
  · obtain ⟨h0, ht⟩ := isFileChange_iff.mp hn
    rcases initialize_scripted (p := noteChange P p fs) hs hi with ⟨ha, rfl⟩ | ⟨ha, source, hr, hb⟩
    · refine ⟨hload _ rfl (if_neg fun hc => ?_).symm, rfl, fun hx => hx⟩
      rw [ha] at hc
      cases hc.2.2
    · refine ⟨hload _ hb.sources ?_, hb.identity, fun _ => hb.newest⟩
      rw [Loading.next, if_pos ⟨h0, ht, ha⟩, hr]
      rfl

theorem visits_load {vs : List Visit} {s t : Visited} (hs : s.p.script_.isSome) (hn : s.p.Newest)
    (h : run (visit P) s vs = .ok t) : t.p.loading = (vs.map (·.file)).foldl (Loading.next P) s.p.loading ∧
      t.p.identity = s.p.identity ∧ t.p.Newest := by
  induction vs generalizing s with
  | nil =>
    cases h
    exact ⟨rfl, rfl, hn⟩
  | cons v vs ih =>
    obtain ⟨u, hu, h⟩ := run_cons_ok.mp h
    obtain ⟨st, hu⟩ := visit_ok.mp hu
    obtain ⟨hl, hid, hnew⟩ := getContext_loads hs hu
    have hscript : u.p.script_ = s.p.script_ := congrArg (·.2.1) hid
    obtain ⟨hl', hid', hn'⟩ := ih (hscript ▸ hs) (hnew hn) h
    rw [List.map_cons, List.foldl_cons, ← hl]
    exact ⟨hl', hid'.trans hid, hn'⟩

/-- Which contents of its script a module has loaded, and into which contexts, follows from the files that its own
    calls have found since it was initialised. -/
theorem run_loads (hP : P.Sandboxed) {es : List Event} {s : System} (h : run (step P) .start es = .ok s) {m : ModId}
    {p : Processor} (hp : s.processor m = some p) : ∃ script fs r t files source, Since P m script fs r t files es s ∧
      readFile P fs = some source ∧ p.identity = (m, some script, r.nextIsolate) ∧
      p.loading = files.foldl (Loading.next P) ⟨0, [source]⟩ ∧ p.Newest := by
  obtain ⟨script, fs, p₀, r, t, files, hs, hi, vs, w, rfl, hr, -, -⟩ := run_visits hP h hp
  obtain ⟨-, source, hread, hb⟩ := initialize_loaded hi.loads
  have hscript : p₀.script_.isSome := by
    rw [hb.script]
    rfl
  obtain ⟨hl, hid, hn⟩ := visits_load hscript hb.newest hr
  refine ⟨script, fs, r, t, _, source, hs, hread, hid.trans hb.identity, ?_, hn⟩
  have h₀ : p₀.loading = ⟨0, [source]⟩ := by
    obtain ⟨_, _, _, rfl⟩ := hb
    rfl
  rw [← h₀]
  exact hl

/-- The call that comes after an edit loads the script again. -/
def editedRun : List Event := fetchingRun ++ [.httpClose 2 0 ⟨some 2, true, some [0x61]⟩]

theorem run_loads_edited : ∃ s p script fs r t files source, run (step .fetching) .start editedRun = .ok s ∧
    s.processor 0 = some p ∧ p.sources.length = 2 ∧ p.identity = (0, some script, r.nextIsolate) ∧
    Since .fetching 0 script fs r t files editedRun s ∧
    p.loading = files.foldl (Loading.next .fetching) ⟨0, [source]⟩ := by
  obtain ⟨s, p, h, hp, hl⟩ : ∃ s p, run (step .fetching) .start editedRun = .ok s ∧ s.processor 0 = some p ∧
    p.sources.length = 2 := ⟨_, _, rfl, rfl, rfl⟩
  obtain ⟨script, fs, r, t, files, source, hs, -, hid, hload, -⟩ := run_loads (Platform.calling_sandboxed _) h hp
  exact ⟨s, p, script, fs, r, t, files, source, h, hp, hl, hid, hs, hload⟩

/-! ## Contexts -/

theorem getContext_sources {p p' : Processor} {fs : ScriptFile} {w w' : World} {st : Option Int64}
    (h : getContext P p fs w = .ok (st, p', w')) : p.sources <+: p'.sources := by
  rcases getContext_cases h with ⟨-, -, rfl, -⟩ | ⟨rv, -, -, hi⟩
  · exact List.prefix_rfl
  · rcases initialize_cases hi with ⟨-, -, rfl⟩ | ⟨-, -, -, source, -, hb⟩
    · exact List.prefix_rfl
    · rw [hb.sources]
      exact List.prefix_append _ _

/-- The module's processor is still the one with `p`'s isolate, or one made after `s`. -/
structure Follows (s : System) (m : ModId) (p : Processor) (t : System) : Prop where
  isolates : s.nextIsolate ≤ t.nextIsolate
  processor : ∀ q, t.processor m = some q →
    (q.isolate_ = p.isolate_ ∧ p.sources <+: q.sources) ∨ s.nextIsolate ≤ q.isolate_

theorem step_follows {s t u : System} {m : ModId} {p : Processor} {e : Event} (h : Follows s m p t)
    (hu : step P t e = .ok u) : Follows s m p u where
  isolates := by
    rw [step_nextIsolate hu]
    exact Nat.le_add_right_of_le h.isolates
  processor := fun q hq => by
    rcases step_processors hu with hproc | ⟨x, r, r', st, fs, v, w, hr, hg, hproc⟩ |
      ⟨x, script, log, fs, r, rv, v, w, -, hi, -, hproc⟩
    · exact h.processor q (hproc ▸ hq)
    · rw [hproc] at hq
      rcases update_some hq with ⟨rfl, hx⟩ | ⟨-, hq⟩
      · cases hx
        obtain ⟨-, hiso⟩ := getContext_identity hg
        rw [hiso]
        exact (h.processor r hr).imp (fun hx => ⟨hx.1, hx.2.trans (getContext_sources hg)⟩) id
      · exact h.processor q hq
    · rw [hproc] at hq
      rcases update_some hq with ⟨-, hq⟩ | ⟨-, hq⟩
      · cases hq
        obtain ⟨-, hiso⟩ := initialize_identity hi
        exact .inr (h.isolates.trans_eq hiso.symm)
      · exact h.processor q hq

theorem Processor.Newest.context_eq_iff {p q : Processor} (hp : p.Newest) (hq : q.Newest) :
    p.context_ = q.context_ ↔ p.isolate_ = q.isolate_ ∧ p.sources.length = q.sources.length := by
  obtain ⟨l, x, hl, hp⟩ := hp
  obtain ⟨k, y, hk, hq⟩ := hq
  rw [hp, hq, hl, hk]
  simp

theorem run_newest (hP : P.Sandboxed) {es : List Event} {s : System} (h : run (step P) .start es = .ok s) {m : ModId}
    {p : Processor} (hp : s.processor m = some p) : p.Newest := by
  obtain ⟨-, -, -, -, -, -, -, -, -, -, hn⟩ := run_loads hP h hp
  exact hn

/-- Two processors, of any modules and at any times of a run, have a context in common exactly where they are one
    module's, from one initialisation, with nothing loaded in between. -/
theorem run_contexts (hP : P.Sandboxed) {es fs : List Event} {s t : System} (hs : run (step P) .start es = .ok s)
    (ht : run (step P) s fs = .ok t) {m m' : ModId} {p p' : Processor} (hp : s.processor m = some p)
    (hp' : t.processor m' = some p') :
    p.context_ = p'.context_ ↔ m = m' ∧ p.isolate_ = p'.isolate_ ∧ p.sources = p'.sources := by
  have hrun : run (step P) .start (es ++ fs) = .ok t := run_append_ok.mpr ⟨s, hs, ht⟩
  rw [(run_newest hP hs hp).context_eq_iff (run_newest hP hrun hp')]
  constructor
  · intro h
    obtain ⟨hiso, hlen⟩ := h
    obtain ⟨-, hown⟩ := (run_shared hP hs).own m p hp
    obtain ⟨-, hown'⟩ := (run_shared hP hrun).own m' p' hp'
    have hlt := (List.getElem?_eq_some_iff.mp hown).1
    have hsplit : initialised (es ++ fs) = initialised es ++ initialised fs := List.filterMap_append
    have hm : m = m' := by
      rw [← hiso, hsplit, List.getElem?_append_left hlt, hown] at hown'
      exact Option.some.inj hown'
    subst hm
    have hfollows : Follows s m p t := by
      refine run_inv (fun _ _ _ hx => step_follows hx) ⟨Nat.le_refl _, fun q hq => ?_⟩ ht
      cases hp.symm.trans hq
      exact .inl ⟨rfl, List.prefix_rfl⟩
    rcases hfollows.processor p' hp' with ⟨-, hpre⟩ | hnew
    · exact ⟨rfl, hiso, hpre.eq_of_length hlen⟩
    · rw [(run_shared hP hs).isolates, ← hiso] at hnew
      exact absurd hlt (Nat.not_lt_of_le hnew)
  · intro h
    obtain ⟨-, hiso, hsrc⟩ := h
    exact ⟨hiso, congrArg List.length hsrc⟩

/-- The second module's context is not the first one's. -/
theorem run_contexts_two : ∃ s p p', run (step .reference) .start twoModules = .ok s ∧ s.processor 7 = some p ∧
    s.processor 8 = some p' ∧ (p.context_ = p'.context_ ↔ 7 = 8 ∧ p.isolate_ = p'.isolate_ ∧ p.sources = p'.sources) := by
  obtain ⟨s, p, p', h, hp, hp'⟩ : ∃ s p p', run (step .reference) .start twoModules = .ok s ∧ s.processor 7 = some p ∧
    s.processor 8 = some p' := ⟨_, _, _, rfl, rfl, rfl⟩
  exact ⟨s, p, p', h, hp, hp', run_contexts Platform.reference_sandboxed h (rfl : run _ s [] = .ok s) hp hp'⟩

end MesiboV8
