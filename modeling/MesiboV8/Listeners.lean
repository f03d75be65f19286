/-
  MesiboV8.Listeners — the listeners of a script: what a load leaves of them, and whether
  the two inbound paths go by the same ones.

  `ExecuteScript` looks the listeners up once and keeps what it finds; a lookup that finds
  none returns a handle on null, which is not empty. So `Initialize` is OK for every script
  that compiles and runs, and means a listener only where there is one (`initialize_means_iff`).

  `OnMessage` calls what was kept, `OnMessageStatus` looks its listener up. The two agree along
  a run exactly as long as whatever runs between two loads that complete leaves the listeners
  it finds (`listeners_agree_iff`).
-/

import MesiboV8.Visits

namespace MesiboV8

open Lib.Bytes Lib.Utf Lib.Runs

variable {P : Platform}

/-! ## Looking a listener up -/

/-- `mesibo.k` of the context is the function `f`. -/
def Listener (context : CtxId) (k : String) (w : World) (f : JsVal) : Prop :=
  ∃ g mesibo, w.globals context = some g ∧ w.get g JS_MESIBO_GLOBAL_OBJECT = some mesibo ∧ mesibo.isObject ∧
    w.getOf mesibo k = some f ∧ f.isFunction

section Lookup

variable {context : CtxId} {k : String} {w : World} {f : JsVal}

theorem getGlobalFunction_eq (h : Listener context k w f) : getGlobalFunction context k w = f := by
  obtain ⟨g, mesibo, hg, hm, ho, hf, hfun⟩ := h
  simp [getGlobalFunction, hg, hm, ho, hf, hfun]

theorem Listener.isFunction (h : Listener context k w f) : f.isFunction := by
  obtain ⟨-, -, -, -, -, -, hfun⟩ := h
  exact hfun

theorem getGlobalFunction_cases (context : CtxId) (k : String) (w : World) :
    getGlobalFunction context k w = .null ∨ Listener context k w (getGlobalFunction context k w) := by
  unfold getGlobalFunction
  split
  · exact .inl rfl
  · rename_i mesibo hm
    obtain ⟨g, hg, hm⟩ := Option.bind_eq_some_iff.mp hm
    split
    · exact .inl rfl
    · rename_i ho
      split
      · exact .inl rfl
      · rename_i f hf
        split
        · exact .inl rfl
        · rename_i hfun
          exact .inr ⟨g, mesibo, hg, hm, by simpa using ho, hf, by simpa using hfun⟩

/-- Two lookups find the same exactly if the listeners are. -/
theorem lookup_eq_iff {context' : CtxId} {w' : World} : getGlobalFunction context' k w' = getGlobalFunction context k w ↔
    ∀ f, Listener context k w f ↔ Listener context' k w' f := by
  constructor
  · intro he f
    constructor
    · intro h
      rcases getGlobalFunction_cases context' k w' with hn | hl
      · have hf := h.isFunction
        rw [← getGlobalFunction_eq h, ← he, hn] at hf
        cases hf
      · rwa [he, getGlobalFunction_eq h] at hl
    · intro h
      rcases getGlobalFunction_cases context k w with hn | hl
      · have hf := h.isFunction
        rw [← getGlobalFunction_eq h, he, hn] at hf
        cases hf
      · rwa [← he, getGlobalFunction_eq h] at hl
  · intro h
    rcases getGlobalFunction_cases context k w with hn | hl
    · rcases getGlobalFunction_cases context' k w' with hn' | hl'
      · rw [hn, hn']
      · rw [getGlobalFunction_eq ((h _).mpr hl')]
    · exact getGlobalFunction_eq ((h _).mp hl)

end Lookup

/-! ## A load -/

section Execution

variable {p : Processor} {source : JsString} {w u u' : World} {context context' : CtxId}

/-- The script compiles in its new context, and its run completes and leaves `u`. -/
def Completes (P : Platform) (p : Processor) (source : JsString) (w : World) (context : CtxId) (u : World) : Prop :=
  ∃ compiled r v, contextNew P p w = (context, v) ∧ P.compile context source v = some compiled ∧
    P.run context compiled v = (some r, u)

/-- The script does not compile in its new context, or its run throws and leaves `u`. -/
def Fails (P : Platform) (p : Processor) (source : JsString) (w : World) (context : CtxId) (u : World) : Prop :=
  ∃ v, contextNew P p w = (context, v) ∧ ((P.compile context source v = none ∧ u = v) ∨
    ∃ compiled, P.compile context source v = some compiled ∧ P.run context compiled v = (none, u))

theorem Completes.unique (h : Completes P p source w context u) (h' : Completes P p source w context' u') :
    context = context' ∧ u = u' := by
  obtain ⟨compiled, r, v, hn, hc, hr⟩ := h
  obtain ⟨compiled', r', v', hn', hc', hr'⟩ := h'
  cases hn.symm.trans hn'
  cases hc.symm.trans hc'
  cases hr.symm.trans hr'
  exact ⟨rfl, rfl⟩

theorem Fails.unique (h : Fails P p source w context u) (h' : Fails P p source w context' u') :
    context = context' ∧ u = u' := by
  obtain ⟨v, hn, h⟩ := h
  obtain ⟨v', hn', h'⟩ := h'
  cases hn.symm.trans hn'
  rcases h with ⟨hc, rfl⟩ | ⟨compiled, hc, hr⟩ <;> rcases h' with ⟨hc', rfl⟩ | ⟨compiled', hc', hr'⟩
  · exact ⟨rfl, rfl⟩
  · cases hc.symm.trans hc'
  · cases hc.symm.trans hc'
  · cases hc.symm.trans hc'
    cases hr.symm.trans hr'
    exact ⟨rfl, rfl⟩

theorem Fails.not_completes (h : Fails P p source w context u) : ¬Completes P p source w context' u' := by
  intro h'
  obtain ⟨v, hn, h⟩ := h
  obtain ⟨compiled', r, v', hn', hc', hr'⟩ := h'
  cases hn.symm.trans hn'
  rcases h with ⟨hc, rfl⟩ | ⟨compiled, hc, hr⟩
  · cases hc.symm.trans hc'
  · cases hc.symm.trans hc'
    cases hr.symm.trans hr'

end Execution

/-- `p` in a new context for `source`. -/
def Processor.inContext (p : Processor) (context : CtxId) (source : JsString) : Processor :=
  { p with context_ := some context, sources := p.sources ++ [source] }

/-- `p` with the listeners that are in its context. -/
def Processor.withListeners (p : Processor) (context : CtxId) (w : World) : Processor :=
  { p with
    jsMesiboOnMessage := some (getGlobalFunction context JS_MESIBO_LISTENER_ON_MESSAGE w)
    jsMesiboOnMessageStatus := some (getGlobalFunction context JS_MESIBO_LISTENER_ON_MESSAGE_STATUS w)
    jsMesiboOnLogin := some (getGlobalFunction context JS_MESIBO_LISTENER_ON_LOGIN w) }

/-- A script that fails leaves the listeners; one that completes replaces them all. -/
theorem executeScript_cases (p : Processor) (source : JsString) (w : World) : ∃ context u,
    (Fails P p source w context u ∧
      executeScript P p source w = (P.MESIBO_RESULT_FAIL, p.inContext context source, u)) ∨
    (Completes P p source w context u ∧
      executeScript P p source w = (P.MESIBO_RESULT_OK, (p.inContext context source).withListeners context u, u)) := by
  obtain ⟨context, v, hn⟩ : ∃ context v, contextNew P p w = (context, v) := ⟨_, _, rfl⟩
  simp only [executeScript, hn]
  cases hc : P.compile context source v with
  | none => exact ⟨context, v, .inl ⟨⟨v, hn, .inl ⟨hc, rfl⟩⟩, rfl⟩⟩
  | some compiled =>
    obtain ⟨r, u, hr⟩ : ∃ r u, P.run context compiled v = (r, u) := ⟨_, _, rfl⟩
    cases r with
    | none => exact ⟨context, u, .inl ⟨⟨v, hn, .inr ⟨compiled, hc, hr⟩⟩, by simp [hr, Processor.inContext]⟩⟩
    | some r =>
      refine ⟨context, u, .inr ⟨⟨compiled, r, v, hn, hc, hr⟩, ?_⟩⟩
      simp [hr, Processor.inContext, Processor.withListeners]

/-- The world in which a load executes its script. -/
def World.loading (p : Processor) (w : World) : World := { w with statics := setCallables p w.statics }

/-- A load of a script that can be read is that of `ExecuteScript`. -/
theorem initialize_executes {p : Processor} {fs : ScriptFile} {source : JsString} (hs : p.script_.isSome)
    (ha : fs.access = true) (hr : readFile P fs = some source) (w : World) :
    processorInitialize P p fs w = .ok (executeScript P p source (w.loading p)) := by
  have hs' : p.script_.isNone = false := Option.isNone_eq_false_iff.mpr hs
  obtain ⟨context, u, ⟨-, he⟩ | ⟨-, he⟩⟩ := executeScript_cases (P := P) p source (w.loading p)
  · simp only [World.loading] at he ⊢
    simp [processorInitialize, hs', ha, hr, he]
  · simp only [World.loading] at he ⊢
    simp [processorInitialize, hs', ha, hr, he, P.ok_ne_fail.symm]

/-- A message that `GetContext` loads nothing for makes `OnMessage` call `f`. -/
def Invokes (P : Platform) (p : Processor) (context : CtxId) (f : JsVal) : Prop :=
  ∀ fs params message len w o v, Kept P p fs w → ctoJMessageParams P p.isolate_ params w = .ok (o, v) →
    onMessage P p fs params message len w = .ok ((executeJsFunctionObj P context f [.object o] v).1, noteChange P p fs,
      (executeJsFunctionObj P context f [.object o] v).2)

theorem onMessage_invokes {p : Processor} {context : CtxId} {f : JsVal} (hc : p.context_ = some context)
    (hm : p.jsMesiboOnMessage = some f) (hf : f.isFunction) : Invokes P p context f := by
  intro fs params message len w o v hk ho
  have hg : getContext P p fs w = .ok (none, noteChange P p fs, w) := by
    rw [getContext, kept_iff.mp hk, if_neg (by simp)]
  have hm' : (noteChange P p fs).jsMesiboOnMessage = some f := hm
  have ho' : ctoJMessageParams P (noteChange P p fs).isolate_ params w = .ok (o, v) := ho
  simp [onMessage, hg, hc, ho', hm', JsVal.isNullOrUndefined_of_isFunction hf]

/-- The load of `source` is OK exactly if the script completes and leaves a listener for
    messages, and then the next message is the listener's. -/
def MeansListener (P : Platform) (p : Processor) (fs : ScriptFile) (source : JsString) (w : World) : Prop :=
  ∃ rv p' w', processorInitialize P p fs w = .ok (rv, p', w') ∧
    (rv = P.MESIBO_RESULT_OK ↔
      ∃ context f, Completes P p source (w.loading p) context w' ∧
        Listener context JS_MESIBO_LISTENER_ON_MESSAGE w' f) ∧
    (rv = P.MESIBO_RESULT_OK →
      ∃ context f, Listener context JS_MESIBO_LISTENER_ON_MESSAGE w' f ∧ Invokes P p' context f)

/-- It is for exactly the scripts that do not complete or leave a listener. -/
theorem initialize_means_iff {p : Processor} {fs : ScriptFile} {source : JsString} (hs : p.script_.isSome)
    (ha : fs.access = true) (hr : readFile P fs = some source) (w : World) : MeansListener P p fs source w ↔
      ∀ context u, Completes P p source (w.loading p) context u →
        ∃ f, Listener context JS_MESIBO_LISTENER_ON_MESSAGE u f := by
  have hi := initialize_executes hs ha hr w
  unfold MeansListener
  rw [hi]
  obtain ⟨context, u, ⟨hno, he⟩ | ⟨hc, he⟩⟩ := executeScript_cases (P := P) p source (w.loading p)
  · rw [he]
    refine ⟨fun _ c v hv => absurd hv hno.not_completes, fun _ => ⟨_, _, _, rfl, ⟨?_, ?_⟩, ?_⟩⟩
    · exact fun hok => absurd hok P.ok_ne_fail.symm
    · intro h
      obtain ⟨c, f, hc, -⟩ := h
      exact absurd hc hno.not_completes
    · exact fun hok => absurd hok P.ok_ne_fail.symm
  · rw [he]
    constructor
    · intro h c v hv
      obtain ⟨rv, p', w', hrv, hok, -⟩ := h
      cases hrv
      obtain ⟨c', f, hc', hf⟩ := hok.mp rfl
      obtain ⟨rfl, rfl⟩ := hv.unique hc'
      exact ⟨f, hf⟩
    · intro h
      obtain ⟨f, hf⟩ := h context u hc
      refine ⟨_, _, _, rfl, ⟨fun _ => ⟨context, f, hc, hf⟩, fun _ => rfl⟩, fun _ => ⟨context, f, hf, ?_⟩⟩
      exact onMessage_invokes rfl (congrArg some (getGlobalFunction_eq hf)) hf.isFunction

/-- The world with `mesibo.k` of the context set to a function. -/
def World.assign (context : CtxId) (k : String) (f : JsVal) (w : World) : World :=
  match (w.globals context).bind (w.get · JS_MESIBO_GLOBAL_OBJECT) with
  | some (.object mesibo) => (w.set mesibo k f).2
  | _ => w

/-- Scripts that listen to messages, with a listener that puts another in its place. -/
def Platform.fickle : Platform :=
  { Platform.reference with
    run := fun context _ w => (some .undefined, w.assign context JS_MESIBO_LISTENER_ON_MESSAGE (.func 1))
    call := fun context _ _ w => (some .undefined, w.assign context JS_MESIBO_LISTENER_ON_MESSAGE (.func 2)) }

theorem initialize_means_fickle : MeansListener .fickle (.new 0 (some "a.js") 0) ⟨some 1, true, some []⟩ [] .empty := by
  refine (initialize_means_iff (p := .new 0 (some "a.js") 0) rfl rfl rfl .empty).mpr fun context u h => ?_
  obtain ⟨compiled, r, v, hn, -, hr⟩ := h
  cases hn
  cases hr
  exact ⟨.func 1, 1, .object 0, rfl, rfl, rfl, rfl, rfl⟩

/-- A script that defines no listener loads as well as any. -/
theorem no_listener_loads : ¬∀ (p : Processor) (fs : ScriptFile) (source : JsString), p.script_.isSome →
    fs.access = true → readFile .reference fs = some source → ∀ w, MeansListener .reference p fs source w := by
  intro h
  obtain ⟨rv, p', w', hi, hok, -⟩ := h (.new 0 (some "a.js") 0) ⟨some 1, true, some []⟩ [] rfl rfl rfl .empty
  cases hi
  obtain ⟨context, f, ⟨compiled, r, v, hn, -, hr⟩, g, mesibo, hg, hm, -, hf, hfun⟩ := hok.mp rfl
  cases hn
  cases hr
  cases hg
  cases hm
  cases hf
  cases hfun

/-! ## The two inbound paths -/

/-- What the lookups of the two listeners find, in the processor's context. -/
def Visited.found (s : Visited) : Option (JsVal × JsVal) := s.p.context_.map fun context =>
  (getGlobalFunction context JS_MESIBO_LISTENER_ON_MESSAGE s.w,
    getGlobalFunction context JS_MESIBO_LISTENER_ON_MESSAGE_STATUS s.w)

/-- The handles kept are what the lookups find. -/
def Agrees (s : Visited) : Prop :=
  ∃ f g, s.found = some (f, g) ∧ s.p.jsMesiboOnMessage = some f ∧ s.p.jsMesiboOnMessageStatus = some g

/-- The listeners of two contexts are the same functions. -/
structure SameListeners (context : CtxId) (w : World) (context' : CtxId) (w' : World) : Prop where
  onMessage : ∀ f, Listener context JS_MESIBO_LISTENER_ON_MESSAGE w f ↔ Listener context' JS_MESIBO_LISTENER_ON_MESSAGE w' f
  onMessageStatus : ∀ f,
    Listener context JS_MESIBO_LISTENER_ON_MESSAGE_STATUS w f ↔ Listener context' JS_MESIBO_LISTENER_ON_MESSAGE_STATUS w' f

theorem found_eq_iff {s t : Visited} {context context' : CtxId} (hs : s.p.context_ = some context)
    (ht : t.p.context_ = some context') : t.found = s.found ↔ SameListeners context s.w context' t.w := by
  simp only [Visited.found, hs, ht, Option.map_some, Option.some.injEq, Prod.mk.injEq, lookup_eq_iff]
  exact ⟨fun h => ⟨h.1, h.2⟩, fun h => ⟨h.onMessage, h.onMessageStatus⟩⟩

/-- The visit executes the file. -/
def Visit.Executes (P : Platform) (s : Visited) (v : Visit) : Prop :=
  isFileChange P s.p v.file = true ∧ v.file.access = true

/-- The visit executes the file, which fails in `context` and leaves `u`. -/
def Visit.FailsIn (P : Platform) (s : Visited) (v : Visit) (context : CtxId) (u : World) : Prop :=
  v.Executes P s ∧ ∃ source, readFile P v.file = some source ∧
    Fails P (noteChange P s.p v.file) source ((v.scripts s.w).loading (noteChange P s.p v.file)) context u

/-- What has run since the last visit leaves the listeners there were, unless the file is
    executed; an execution that fails makes the same ones in its new context. -/
structure Undisturbed (P : Platform) (s : Visited) (v : Visit) : Prop where
  scripts : ¬v.Executes P s → ∀ context, s.p.context_ = some context →
    SameListeners context s.w context (v.scripts s.w)
  failure : ∀ context context' u, s.p.context_ = some context → v.FailsIn P s context' u →
    SameListeners context s.w context' u

/-- A processor that was loaded. -/
structure Visited.Live (s : Visited) : Prop where
  script : s.p.script_.isSome
  context : s.p.context_.isSome

theorem withListeners_agrees (p : Processor) (context : CtxId) (source : JsString) (w : World) :
    Agrees ⟨(p.inContext context source).withListeners context w, w⟩ := ⟨_, _, rfl, rfl, rfl⟩

/-- The processor kept the listeners it had. -/
def Visited.KeepsListeners (s t : Visited) : Prop :=
  t.p.jsMesiboOnMessage = s.p.jsMesiboOnMessage ∧ t.p.jsMesiboOnMessageStatus = s.p.jsMesiboOnMessageStatus

/-- Where nothing new is kept, the handles are right as long as the lookups find the same. -/
theorem agrees_iff_of_keeps {s t : Visited} (hs : Agrees s) (hk : s.KeepsListeners t) : Agrees t ↔ t.found = s.found := by
  obtain ⟨f, g, hfound, hf, hg⟩ := hs
  rw [hfound]
  constructor
  · intro ha
    obtain ⟨f', g', hfound', hf', hg'⟩ := ha
    cases hf.symm.trans (hk.1.symm.trans hf')
    cases hg.symm.trans (hk.2.symm.trans hg')
    exact hfound'
  · intro he
    exact ⟨f, g, he, hk.1.trans hf, hk.2.trans hg⟩

/-- What a visit does to the listeners. -/
theorem visit_listeners {s t : Visited} {v : Visit} (hs : s.Live) (h : visit P s v = .ok t) : t.Live ∧
    ((¬v.Executes P s ∧ t.found = (⟨s.p, v.scripts s.w⟩ : Visited).found ∧ s.KeepsListeners t) ∨
      (∃ context, v.FailsIn P s context t.w ∧ t.p.context_ = some context ∧ s.KeepsListeners t) ∨
      (v.Executes P s ∧ (∀ context u, ¬v.FailsIn P s context u) ∧ Agrees t)) := by
  obtain ⟨st, h⟩ := visit_ok.mp h
  obtain ⟨p', w'⟩ := t
  dsimp only at h
  rcases getContext_cases h with ⟨hn, rfl, rfl, rfl⟩ | ⟨rv, hc, rfl, hi⟩
  · refine ⟨⟨hs.script, hs.context⟩, .inl ⟨fun he => ?_, rfl, rfl, rfl⟩⟩
    rw [he.1] at hn
    cases hn
  · cases ha : v.file.access with
    | false =>
      have hno : ¬v.Executes P s := fun he => by rw [Visit.Executes, ha] at he; cases he.2
      have hs' : (noteChange P s.p v.file).script_.isNone = false := Option.isNone_eq_false_iff.mpr hs.script
      simp only [processorInitialize, hs', ha, Bool.false_eq_true, if_false, Bool.not_false, if_true] at hi
      cases hi
      exact ⟨⟨hs.script, hs.context⟩, .inl ⟨hno, rfl, rfl, rfl⟩⟩
    | true =>
      have hex : v.Executes P s := ⟨hc, ha⟩
      rcases initialize_cases hi with ⟨⟨hm⟩ | ⟨hm⟩, -⟩ | ⟨-, -, -, source, hr, -⟩
      · exact absurd hs.script (by rw [show s.p.script_ = none from hm]; simp)
      · rw [ha] at hm; cases hm
      · rw [initialize_executes (p := noteChange P s.p v.file) hs.script ha hr] at hi
        obtain ⟨context, u, ⟨hf, he⟩ | ⟨hf, he⟩⟩ := executeScript_cases (P := P) (noteChange P s.p v.file) source
          ((v.scripts s.w).loading (noteChange P s.p v.file))
        · rw [he] at hi
          cases hi
          exact ⟨⟨hs.script, rfl⟩, .inr (.inl ⟨context, ⟨hex, source, hr, hf⟩, rfl, rfl, rfl⟩)⟩
        · rw [he] at hi
          cases hi
          refine ⟨⟨hs.script, rfl⟩, .inr (.inr ⟨hex, fun c u' hno => ?_, withListeners_agrees _ _ _ _⟩)⟩
          obtain ⟨-, source', hr', hno⟩ := hno
          cases hr.symm.trans hr'
          exact hno.not_completes hf

theorem Visit.FailsIn.unique {s : Visited} {v : Visit} {context context' : CtxId} {u u' : World}
    (h : v.FailsIn P s context u) (h' : v.FailsIn P s context' u') : context = context' ∧ u = u' := by
  obtain ⟨-, source, hr, h⟩ := h
  obtain ⟨-, source', hr', h'⟩ := h'
  cases hr.symm.trans hr'
  exact h.unique h'

/-- A visit from where the handles are right leaves them right exactly if it is undisturbed. -/
theorem visit_agrees_iff {s t : Visited} {v : Visit} (hs : s.Live) (ha : Agrees s) (h : visit P s v = .ok t) :
    Agrees t ↔ Undisturbed P s v := by
  obtain ⟨context, hc⟩ := Option.isSome_iff_exists.mp hs.context
  rcases (visit_listeners hs h).2 with ⟨hno, hfound, hk⟩ | ⟨context', hf, hct, hk⟩ | ⟨hex, hno, hat⟩
  · rw [agrees_iff_of_keeps ha hk, hfound, found_eq_iff (t := ⟨s.p, v.scripts s.w⟩) hc hc]
    constructor
    · intro hsame
      refine ⟨fun _ c hc' => ?_, fun c c' u _ hf => absurd hf.1 hno⟩
      cases hc.symm.trans hc'
      exact hsame
    · exact fun hu => hu.scripts hno context hc
  · rw [agrees_iff_of_keeps ha hk, found_eq_iff hc hct]
    constructor
    · intro hsame
      refine ⟨fun hno => absurd hf.1 hno, fun c c' u hc' hf' => ?_⟩
      cases hc.symm.trans hc'
      obtain ⟨rfl, rfl⟩ := hf.unique hf'
      exact hsame
    · exact fun hu => hu.failure context context' t.w hc hf
  · exact ⟨fun _ => ⟨fun h => absurd hex h, fun c c' u _ hf => absurd hf (hno c' u)⟩, fun _ => hat⟩

/-- The listeners kept are the ones looked up at every visit of a run, as long as nothing
    disturbs the listeners between two loads, and no longer. -/
theorem listeners_agree_iff {mod : ModId} {script : Option String} {isolate : IsolateId} {fs : ScriptFile}
    {p : Processor} {w₀ w : World}
    (hi : processorInitialize P (.new mod script isolate) fs w₀ = .ok (P.MESIBO_RESULT_OK, p, w)) (vs : List Visit) :
    Along (visit P) (fun _ _ t => Agrees t) ⟨p, w⟩ vs ↔ Along (visit P) (fun s v _ => Undisturbed P s v) ⟨p, w⟩ vs := by
  refine along_iff (I := fun s => s.Live ∧ Agrees s) ?_ ?_ ?_ vs
  · exact fun s v t hs ht ha => ⟨(visit_listeners hs.1 ht).1, ha⟩
  · exact fun s v t hs ht => visit_agrees_iff hs.1 hs.2 ht
  · obtain ⟨hs, source, hr, -⟩ := initialize_loaded hi
    have ha : fs.access = true := by
      rcases initialize_cases hi with ⟨-, hf, -⟩ | ⟨-, ha, -⟩
      · exact absurd hf P.ok_ne_fail
      · exact ha
    rw [initialize_executes hs ha hr] at hi
    obtain ⟨context, u, ⟨-, he⟩ | ⟨-, he⟩⟩ :=
      executeScript_cases (P := P) (.new mod script isolate) source (w₀.loading (.new mod script isolate))
    · rw [he] at hi
      exact absurd (congrArg Prod.fst (Except.ok.inj hi)).symm P.ok_ne_fail
    · rw [he] at hi
      cases hi
      exact ⟨⟨hs, rfl⟩, withListeners_agrees _ _ _ _⟩

/-- A processor that loaded a script of `Platform.fickle`. -/
theorem fickle_loads : ∃ p w, processorInitialize .fickle (.new 0 (some "a.js") 0) ⟨some 1, true, some []⟩ .empty =
    .ok (Platform.fickle.MESIBO_RESULT_OK, p, w) := ⟨_, _, rfl⟩

theorem listeners_agree_iff_fickle : ∃ p w,
    processorInitialize .fickle (.new 0 (some "a.js") 0) ⟨some 1, true, some []⟩ .empty =
      .ok (Platform.fickle.MESIBO_RESULT_OK, p, w) ∧
    (Along (visit .fickle) (fun _ _ t => Agrees t) ⟨p, w⟩ [⟨id, ⟨some 1, true, some []⟩⟩] ↔
      Along (visit .fickle) (fun s v _ => Undisturbed .fickle s v) ⟨p, w⟩ [⟨id, ⟨some 1, true, some []⟩⟩]) := by
  obtain ⟨p, w, h⟩ := fickle_loads
  exact ⟨p, w, h, listeners_agree_iff h _⟩

/-- A listener that puts another in its place goes on being called. -/
theorem reassigned_listener_kept : ¬∀ (mod : ModId) (script : Option String) (isolate : IsolateId) (fs : ScriptFile)
    (p : Processor) (w₀ w : World), processorInitialize .fickle (.new mod script isolate) fs w₀ =
      .ok (Platform.fickle.MESIBO_RESULT_OK, p, w) →
    ∀ vs, Along (visit .fickle) (fun _ _ t => Agrees t) ⟨p, w⟩ vs := by
  intro h
  obtain ⟨⟨f, g, hfound, hf, -⟩, -⟩ := h 0 (some "a.js") 0 ⟨some 1, true, some []⟩ _ .empty _ rfl
    [⟨fun w => (executeJsFunctionObj .fickle ⟨0, 0⟩ (.func 1) [] w).2, ⟨some 1, true, some []⟩⟩] _ rfl
  cases hf
  cases congrArg (Option.map Prod.fst) hfound

end MesiboV8
