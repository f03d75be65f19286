/-
  MesiboV8.Templates — the static templates, and whose they are.

  They are made by the first initialisation of the process and never again, while each
  module gets an isolate of its own (`run_shared`). So what a script instantiates with `new`
  is its own module's exactly when that module was the first (`own_templates_iff`); in a
  script of any other module `new` ends the process (`class_foreign`).
-/

import MesiboV8.Host
import MesiboV8.Scripts

namespace MesiboV8

open Lib.Bytes Lib.Utf Lib.Effects Lib.Runs Act

variable {P : Platform}

/-! ## Instances -/

/-- The template a class function makes its objects from. -/
def Native.template (cb : Native) (s : Statics) : Option ObjectTemplate :=
  match cb with
  | .messageClassCallback => s.messageTemplate
  | .httpClassCallback => s.httpTemplate
  | .socketClassCallback => s.socketTemplate
  | _ => none

def Native.isClass : Native → Bool
  | .messageClassCallback | .httpClassCallback | .socketClassCallback => true
  | _ => false

/-- An object is asked for: the callable has its module, and was called with `new` where that is looked at. -/
def Instantiates (cb : Native) (info : CallInfo) : Prop :=
  info.mod.isSome ∧ (cb = .messageClassCallback ∨ info.isConstructCall)

theorem classCallback_instantiates {info : CallInfo} (h : info.mod.isSome) (template : Statics → Option ObjectTemplate)
    (w : World) : classCallback info template w =
      (newFromStatic info.isolate (template w.statics) >>= fun o => (pure (.object o) : Act JsVal)) w := by
  obtain ⟨mod, hm⟩ := Option.isSome_iff_exists.mp h
  rw [classCallback, hm]
  exact get_bind

/-- Then the function instantiates its template. -/
theorem class_instantiates {cb : Native} {info : CallInfo} (hcb : cb.isClass = true) (h : Instantiates cb info)
    (w : World) : callNative P cb info w =
      (newFromStatic info.isolate (cb.template w.statics) >>= fun o => (pure (.object o) : Act JsVal)) w := by
  obtain ⟨hm, hc⟩ := h
  cases cb <;> try cases hcb
  · exact classCallback_instantiates hm _ w
  · show httpClassCallback info w = _
    rw [httpClassCallback, if_neg (by simpa using hc)]
    exact classCallback_instantiates hm _ w
  · show socketClassCallback info w = _
    rw [socketClassCallback, if_neg (by simpa using hc)]
    exact classCallback_instantiates hm _ w

/-- A template of its own isolate gives it a new object, -/
theorem class_own {cb : Native} {info : CallInfo} (hcb : cb.isClass = true) (h : Instantiates cb info) {w : World}
    {t : ObjectTemplate} (ht : cb.template w.statics = some t) (hi : t.isolate = info.isolate) :
    callNative P cb info w = .ok (.object w.nextObj, (w.newInstance t).2) := by
  rw [class_instantiates hcb h, ht, bind_eq (newFromStatic_own hi w)]
  rfl

/-- and one of another isolate ends the process. -/
theorem class_foreign {cb : Native} {info : CallInfo} (hcb : cb.isClass = true) (h : Instantiates cb info) {w : World}
    {t : ObjectTemplate} (ht : cb.template w.statics = some t) (hi : t.isolate ≠ info.isolate) :
    callNative P cb info w = .error .wrongIsolate := by
  rw [class_instantiates hcb h, ht, bind_error (newFromStatic_foreign hi w)]

/-! ## Runs -/

/-- The templates of a module. -/
def Statics.ofModule (isolate : IsolateId) (mod : ModId) : Statics where
  messageTemplate := some (makeMessageTemplate isolate mod)
  httpTemplate := some (makeHttpTemplate isolate mod)
  socketTemplate := some (makeSocketTemplate isolate mod)

theorem Statics.Le.eq_ofModule {isolate : IsolateId} {mod : ModId} {s : Statics} (h : (Statics.ofModule isolate mod).Le s) :
    s = .ofModule isolate mod := by
  obtain ⟨a, b, c⟩ := s
  cases h.message _ rfl
  cases h.http _ rfl
  cases h.socket _ rfl
  rfl

/-- Before any module is initialised. -/
def System.start : System := ⟨.empty, fun _ => none, 0, false⟩

/-- The module an event initialises, whether that succeeds or not. -/
def Event.initialises? : Event → Option ModId
  | .moduleInit m (some ⟨some _, some _⟩) _ => some m
  | _ => none

def initialised (es : List Event) : List ModId := es.filterMap (·.initialises?)

theorem statics_hostFrame (hP : P.Sandboxed) : HostFrame P fun w u => w.statics.Le u.statics where
  refl := fun _ => .refl _
  trans := .trans
  statics := fun p _ => setCallables_le p _
  newInstance := fun _ _ => .refl _
  globals := fun _ _ _ => .refl _
  run := fun context script w => (scriptRun_extends (hP.run context script w)).statics
  set := fun _ _ _ _ _ => .refl _
  live := fun _ _ => .refl _
  invoked := fun _ _ => .refl _
  call := fun context f args w => (scriptRun_extends (hP.call context f args w)).statics

/-- After the modules `ms` were initialised, in this order. -/
structure Shared (ms : List ModId) (s : System) : Prop where
  start : ms = [] → s = .start
  templates : ∀ m, ms.head? = some m → s.world.statics = .ofModule 0 m
  isolates : s.nextIsolate = ms.length
  own : ∀ m p, s.processor m = some p → p.mod_ = m ∧ ms[p.isolate_]? = some m

/-- Nothing but an initialisation does anything at the start. -/
theorem step_start {e : Event} {t : System} (he : e.initialises? = none) (h : step P .start e = .ok t) : t = .start := by
  cases e with
  | moduleInit m config fs =>
    obtain ⟨rv, h⟩ := returned_ok.mp h
    rcases initialisation_cases h with ⟨-, rfl⟩ | ⟨script, log, rv', p, w, rfl, -⟩
    · rfl
    · cases he
  | message m p message len fs => cases h
  | messageStatus m p status fs => cases h
  | httpData a state progress buffer size => cases h
  | httpStatus a status responseType =>
    cases responseType with
    | none => cases h; rfl
    | some t => cases h
  | httpClose a result fs =>
    by_cases hr : P.MESIBO_RESULT_FAIL = result
    · rw [step, jsMesiboHttpOnclose, if_pos hr] at h
      cases h; rfl
    · rw [step, jsMesiboHttpOnclose, if_neg hr] at h
      cases h

theorem initialize_identity {p p' : Processor} {fs : ScriptFile} {w w' : World} {rv : Int64}
    (h : processorInitialize P p fs w = .ok (rv, p', w')) : p'.mod_ = p.mod_ ∧ p'.isolate_ = p.isolate_ := by
  rcases initialize_cases h with ⟨-, -, rfl⟩ | ⟨-, -, -, source, -, _, _, _, rfl⟩ <;> exact ⟨rfl, rfl⟩

theorem getContext_identity {p p' : Processor} {fs : ScriptFile} {w w' : World} {st : Option Int64}
    (h : getContext P p fs w = .ok (st, p', w')) : p'.mod_ = p.mod_ ∧ p'.isolate_ = p.isolate_ := by
  rcases getContext_cases h with ⟨-, -, rfl, -⟩ | ⟨rv, -, -, hi⟩
  · exact ⟨rfl, rfl⟩
  · have hid := initialize_identity hi
    exact hid

/-- The first initialisation makes the templates. -/
theorem first_templates (hP : P.Sandboxed) {m : ModId} {config : Option ModuleConfig} {fs : ScriptFile} {t : System}
    {rv : Int64} (h : mesiboModuleV8Init P m config fs .start = .ok (rv, t)) (hc : config.isSome) :
    t.world.statics = .ofModule 0 m := by
  rcases initialisation_cases h with ⟨rfl, -⟩ | ⟨script, log, rv', p, w, -, -, hi, rfl⟩
  · cases hc
  · have hle := (statics_hostFrame hP).initialize_statics hi
    split <;> exact Statics.Le.eq_ofModule hle

theorem step_nextIsolate {e : Event} {s t : System} (h : step P s e = .ok t) :
    t.nextIsolate = s.nextIsolate + e.initialises?.toList.length := by
  cases e with
  | moduleInit m config fs =>
    obtain ⟨rv, h⟩ := returned_ok.mp h
    rcases initialisation_cases h with ⟨rfl, rfl⟩ | ⟨script, log, rv', p, w, rfl, -, -, rfl⟩
    · rfl
    · split <;> rfl
  | message m p message len fs =>
    obtain ⟨rv, h⟩ := returned_ok.mp h
    obtain ⟨mp, mp', w, -, -, rfl⟩ := v8OnMessage_cases h
    rfl
  | messageStatus m p status fs =>
    obtain ⟨rv, h⟩ := returned_ok.mp h
    obtain ⟨mp, mp', w, -, -, rfl⟩ := v8OnMessageStatus_cases h
    rfl
  | httpData a state progress buffer size =>
    obtain ⟨rv, w, -, rfl⟩ := exec_ok.mp h
    rfl
  | httpStatus a status responseType =>
    obtain ⟨rv, w, -, rfl⟩ := exec_ok.mp h
    rfl
  | httpClose a result fs =>
    rcases onclose_cases h with rfl | ⟨m, mp, st, mp', u, w, -, -, -, rfl⟩ <;> rfl

theorem step_templates (hP : P.Sandboxed) {ms : List ModId} {e : Event} {s t : System} (hs : Shared ms s)
    (h : step P s e = .ok t) {m : ModId} (hm : (ms ++ e.initialises?.toList).head? = some m) :
    t.world.statics = .ofModule 0 m := by
  cases ms with
  | cons m₀ ms =>
    cases hm
    have hle := (statics_hostFrame hP).step_frame (fun _ _ _ _ _ => .refl _) h
    rw [hs.templates m rfl] at hle
    exact hle.eq_ofModule
  | nil =>
    obtain rfl := hs.start rfl
    cases e with
    | moduleInit m' config fs =>
      obtain ⟨rv, h⟩ := returned_ok.mp h
      rcases config with _ | ⟨_ | script, _ | log⟩
      · cases hm
      · cases hm
      · cases hm
      · cases hm
      · cases hm
        exact first_templates hP h rfl
    | message | messageStatus | httpData | httpStatus | httpClose => cases hm

theorem step_own {ms : List ModId} {e : Event} {s t : System} (hs : Shared ms s) (h : step P s e = .ok t) {m : ModId}
    {p : Processor} (hp : t.processor m = some p) : p.mod_ = m ∧ (ms ++ e.initialises?.toList)[p.isolate_]? = some m := by
  have kept : ∀ {q : Processor}, s.processor m = some q →
      q.mod_ = m ∧ (ms ++ e.initialises?.toList)[q.isolate_]? = some m := fun hq => by
    obtain ⟨h₁, h₂⟩ := hs.own m _ hq
    exact ⟨h₁, by rw [List.getElem?_append_left (List.getElem?_eq_some_iff.mp h₂).1]; exact h₂⟩
  rcases step_processors h with ht | ⟨m', q, q', st, fs, u, v, hq, hg, ht⟩ |
    ⟨m', script, log, fs, q, rv, u, v, rfl, hi, -, ht⟩
  · exact kept (ht ▸ hp)
  · by_cases e : m = m'
    · subst e
      rw [ht, Function.update_self] at hp
      cases hp
      obtain ⟨h₁, h₂⟩ := getContext_identity hg
      rw [h₁, h₂]
      exact kept hq
    · rw [ht, Function.update_of_ne e] at hp
      exact kept hp
  · by_cases e : m = m'
    · subst e
      rw [ht, Function.update_self] at hp
      cases hp
      obtain ⟨h₁, h₂⟩ := initialize_identity hi
      refine ⟨h₁, ?_⟩
      have hn : p.isolate_ = ms.length := h₂.trans hs.isolates
      rw [hn]
      simp [Event.initialises?]
    · rw [ht, Function.update_of_ne e] at hp
      exact kept hp

theorem step_shared (hP : P.Sandboxed) {ms : List ModId} {e : Event} {s t : System} (hs : Shared ms s)
    (h : step P s e = .ok t) : Shared (ms ++ e.initialises?.toList) t where
  start := fun hn => by
    obtain ⟨hn, he⟩ := List.append_eq_nil_iff.mp hn
    obtain rfl := hs.start hn
    exact step_start (by simpa using he) h
  templates := fun _ => step_templates hP hs h
  isolates := by rw [step_nextIsolate h, hs.isolates, List.length_append]
  own := fun _ _ => step_own hs h

theorem start_shared : Shared [] .start where
  start := fun _ => rfl
  templates := fun _ h => by cases h
  isolates := rfl
  own := fun _ _ h => by cases h

theorem foldl_initialised (es : List Event) (ms : List ModId) :
    es.foldl (fun ms e => ms ++ e.initialises?.toList) ms = ms ++ initialised es := by
  induction es generalizing ms with
  | nil => simp [initialised]
  | cons e es ih =>
    rw [List.foldl_cons, ih, initialised, initialised, List.filterMap_cons]
    cases e.initialises? <;> simp

theorem run_shared (hP : P.Sandboxed) {es : List Event} {s : System} (h : run (step P) .start es = .ok s) :
    Shared (initialised es) s := by
  have hstep : ∀ s e t ms, Shared ms s → step P s e = .ok t → Shared (ms ++ e.initialises?.toList) t :=
    fun _ _ _ _ hs hst => step_shared hP hs hst
  have hrun := run_rel (R := fun s ms => Shared ms s) hstep start_shared h
  rwa [foldl_initialised, List.nil_append] at hrun

/-- A module with a processor was initialised, so one was the first. -/
theorem Shared.first {ms : List ModId} {s : System} (hs : Shared ms s) {m : ModId} {p : Processor}
    (hp : s.processor m = some p) : ∃ m₀, ms.head? = some m₀ ∧ s.world.statics = .ofModule 0 m₀ := by
  cases ms with
  | nil => cases (hs.own m p hp).2
  | cons m₀ ms => exact ⟨m₀, rfl, hs.templates m₀ rfl⟩

/-! ## Ownership -/

/-- `Message.send` gives the host the module in its data. -/
theorem message_module {info : CallInfo} {w u : World} {r : JsVal} (h : messageCallback P info w = .ok (r, u)) :
    u.calls = w.calls ∨ ∃ mod q s n, info.mod = some mod ∧ u.calls = w.calls ++ [.mesiboMessage mod q s n] := by
  by_cases hr : SendReaches info w
  · obtain ⟨r', u', mod, q, s, n, hu, hmod, -, hcalls⟩ := messageCallback_reached (messageCallback_reads h) hr
    cases hu.symm.trans h
    exact .inr ⟨mod, q, s, n, hmod, hcalls⟩
  · exact .inl (messageCallback_refused hr h)

/-- `Http.send` puts it in the request's context. -/
theorem http_module {info : CallInfo} {w u : World} {r : JsVal} (h : httpCallback P info w = .ok (r, u)) {a : Addr}
    {b : HttpContext} (hb : u.https a = some b) : w.https a = some b ∨ b.mod = info.mod := by
  rcases httpCallback_cases h with ⟨mod, cb, d, hs⟩ | ⟨hq, -⟩
  · have hu : u.https = (w.addContext (freshContext mod info.this cb d)).https := by
      rw [httpCallback_send hs] at h
      obtain ⟨req, v, hv, h⟩ := bind_ok.mp h
      cases h
      rw [← (jtoCHttpOptions_quiet hv).https]
    rw [hu] at hb
    by_cases ha : a = w.nextAddr
    · subst ha
      cases (Function.update_self _ _ _).symm.trans hb
      exact .inr hs.mod.symm
    · exact .inl ((Function.update_of_ne ha _ _).symm.trans hb)
  · rw [hq.https] at hb
    exact .inl hb

/-- The object `o` was made in the isolate of `p`; its callables carry the module of `p`, and that
    is the module the host is given. -/
structure Owned (P : Platform) (p : Processor) (o : ObjId) (w : World) : Prop where
  origin : w.origin o = some p.isolate_
  callables : ∀ k cb d, w.heap o k = .data (.native cb (.external d)) → d = some p.mod_
  message : ∀ k d info x r y, w.heap o k = .data (.native .messageCallback (.external d)) → info.data = .external d →
    messageCallback P info x = .ok (r, y) → y.calls = x.calls ∨ ∃ q s n, y.calls = x.calls ++ [.mesiboMessage p.mod_ q s n]
  http : ∀ k d info x r y, w.heap o k = .data (.native .httpCallback (.external d)) → info.data = .external d →
    httpCallback P info x = .ok (r, y) → ∀ a b, y.https a = some b → x.https a = some b ∨ b.mod = some p.mod_

/-- The last two follow from the others. -/
theorem Owned.of_callables {p : Processor} {o : ObjId} {w : World} (ho : w.origin o = some p.isolate_)
    (hc : ∀ k cb d, w.heap o k = .data (.native cb (.external d)) → d = some p.mod_) : Owned P p o w where
  origin := ho
  callables := hc
  message := fun k d info x r y hk hd h => by
    have hm : info.mod = some p.mod_ := by rw [CallInfo.mod, hd]; exact hc k _ d hk
    rcases message_module h with h | ⟨mod, q, s, n, hmod, h⟩
    · exact .inl h
    · cases hm.symm.trans hmod
      exact .inr ⟨q, s, n, h⟩
  http := fun k d info x r y hk hd h a b hb => by
    have hm : info.mod = some p.mod_ := by rw [CallInfo.mod, hd]; exact hc k _ d hk
    exact hm ▸ http_module h hb

/-- The callables of a module's templates carry that module. -/
theorem template_callables {cb : Native} {isolate : IsolateId} {mod : ModId} {t : ObjectTemplate}
    (ht : cb.template (.ofModule isolate mod) = some t) :
    t.isolate = isolate ∧ ∀ k n d, (t.slots.lookup k).getD .undefined = .native n (.external d) → d = some mod := by
  have slots : t.isolate = isolate ∧ ∀ x ∈ t.slots, ∀ n d, x.2 = .native n (.external d) → d = some mod := by
    cases cb <;> cases ht <;>
      simp [makeMessageTemplate, makeHttpTemplate, makeSocketTemplate]
  refine ⟨slots.1, fun k n d hk => ?_⟩
  cases hl : t.slots.lookup k with
  | none => rw [hl] at hk; cases hk
  | some v =>
    rw [hl] at hk
    obtain ⟨l, r, hlr, -⟩ := List.lookup_eq_some_iff.mp hl
    exact slots.2 (k, v) (by simp [hlr]) n d hk

/-- What the class function instantiates is the own of `p`: a template made in its isolate, of which
    an object comes that is its own. -/
structure MakesOwn (P : Platform) (p : Processor) (cb : Native) (info : CallInfo) (w : World) : Prop where
  template : ∃ t, cb.template w.statics = some t ∧ t.isolate = p.isolate_
  object : ∃ o u, callNative P cb info w = .ok (.object o, u) ∧ Owned P p o u

/-- What a script of a module instantiates in a run is its own exactly when the module was the first
    to be initialised. `v` is any world from then on. -/
theorem own_templates_iff (hP : P.Sandboxed) {es : List Event} {s : System} (h : run (step P) .start es = .ok s)
    (hd : (initialised es).Nodup) {mod : ModId} {p : Processor} (hp : s.processor mod = some p) {v : World}
    (hv : s.world.statics.Le v.statics) {cb : Native} (hcb : cb.isClass = true) {info : CallInfo}
    (hi : Instantiates cb info) (hiso : info.isolate = p.isolate_) :
    MakesOwn P p cb info v ↔ (initialised es).head? = some mod := by
  have hs := run_shared hP h
  obtain ⟨hmod, hown⟩ := hs.own mod p hp
  obtain ⟨m₀, hm₀, ht₀⟩ := hs.first hp
  rw [ht₀] at hv
  have hmade : (cb.template (.ofModule 0 m₀)).isSome := by cases cb <;> first | rfl | cases hcb
  obtain ⟨t, ht⟩ := Option.isSome_iff_exists.mp hmade
  obtain ⟨hti, htc⟩ := template_callables ht
  rw [← hv.eq_ofModule] at ht
  have hfirst : p.isolate_ = 0 ↔ m₀ = mod := by
    rw [List.head?_eq_getElem?] at hm₀
    constructor
    · intro h0
      rw [h0, hm₀] at hown
      exact Option.some.inj hown
    · intro e
      subst e
      exact (List.getElem?_inj (List.getElem?_eq_some_iff.mp hown).1 hd).mp (hown.trans hm₀.symm)
  rw [hm₀, Option.some.injEq, ← hfirst]
  constructor
  · intro hw
    obtain ⟨t', ht', hi'⟩ := hw.template
    cases ht.symm.trans ht'
    exact hi'.symm.trans hti
  · intro h0
    refine ⟨⟨t, ht, hti.trans h0.symm⟩, _, _, class_own hcb hi ht (hti.trans (hiso.trans h0).symm), ?_⟩
    have horigin : (v.newInstance t).2.origin v.nextObj = some p.isolate_ := by simp [World.newInstance, hti, h0]
    refine .of_callables horigin fun k n d hk => ?_
    rw [v.newInstance_plain t k] at hk
    rw [hmod, ← hfirst.mp h0]
    exact htc k n d (Slot.data.inj hk)

/-- The initialisations of the modules 7 and 8. -/
def twoModules : List Event := [.moduleInit 7 (some ⟨some "a.js", some "0"⟩) ⟨some 1, true, some []⟩,
  .moduleInit 8 (some ⟨some "b.js", some "0"⟩) ⟨some 1, true, some []⟩]

/-- `new Message()` in a script of the module. -/
def CallInfo.newMessage (mod : ModId) (isolate : IsolateId) : CallInfo := ⟨0, .external (some mod), [], true, isolate⟩

theorem own_templates_iff_first : ∃ s p, run (step .reference) .start twoModules = .ok s ∧ s.processor 7 = some p ∧
    (MakesOwn .reference p .messageClassCallback (.newMessage 7 0) s.world ↔ (initialised twoModules).head? = some 7) := by
  obtain ⟨s, p, h, hp, hi⟩ : ∃ s p, run (step .reference) .start twoModules = .ok s ∧ s.processor 7 = some p ∧
      p.isolate_ = 0 := ⟨_, _, rfl, rfl, rfl⟩
  exact ⟨s, p, h, hp, own_templates_iff Platform.reference_sandboxed h (by decide) hp (.refl _) rfl ⟨rfl, .inl rfl⟩ hi.symm⟩

/-- In the second module's script the template is the first one's, and the process ends. -/
theorem second_module_fails : ¬∀ s p, run (step .reference) .start twoModules = .ok s → s.processor 8 = some p →
    MakesOwn .reference p .messageClassCallback (.newMessage 8 1) s.world := by
  intro h
  obtain ⟨s, p, hs, hp, ht⟩ : ∃ s p, run (step .reference) .start twoModules = .ok s ∧ s.processor 8 = some p ∧
      s.world.statics.messageTemplate = some (makeMessageTemplate 0 7) := ⟨_, _, rfl, rfl, rfl⟩
  obtain ⟨o, u, ho, -⟩ := (h s p hs hp).object
  have hf : callNative .reference .messageClassCallback (.newMessage 8 1) s.world = .error .wrongIsolate :=
    class_foreign rfl ⟨rfl, .inl rfl⟩ ht (by decide)
  cases hf.symm.trans ho

end MesiboV8
