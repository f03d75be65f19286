/-
  MesiboV8.Faults — every way the host can end the process, and there is no other.

  `Event.Fails` lists, call by call, what the code cannot take: a configuration without a
  `log` or a `script` entry, an initialisation after a callback has locked V8, a script file
  that is there and cannot be read, a call for a module that is not initialised (its `ctx`
  is NULL), a message for a module that is not the first, strings V8 cannot hold, a request
  that is gone, a chunk or a response type written out of bounds. In every state a process
  can reach a call ends it exactly so (`step_fails_iff`), so a run of calls comes to its end
  exactly when no call in it is on the list (`run_fails_iff`). What scripts do in between is
  theirs: the calls they make of the module's functions are those that come back.
-/

import MesiboV8.Soundness

namespace MesiboV8

open Lib.Bytes Lib.Utf Lib.Effects Lib.Runs Act

variable {P : Platform}

@[simp high] theorem error_eq_iff {α : Type} {f g : Fault} : (Except.error g : Except Fault α) = .error f ↔ f = g :=
  ⟨fun h => (Except.error.inj h).symm, fun h => by rw [h]⟩

/-! ## Loading -/

/-- The script is there and cannot be made a string, and is loaded. -/
def Unloadable (P : Platform) (p : Processor) (fs : ScriptFile) : Prop :=
  Rebuilds P p fs = true ∧ readFile P fs = none

theorem initialize_fails_iff {p : Processor} {fs : ScriptFile} {w : World} {f : Fault} :
    processorInitialize P p fs w = .error f ↔
      f = .toLocalChecked ∧ p.script_.isSome ∧ fs.access = true ∧ readFile P fs = none := by
  unfold processorInitialize
  dsimp only
  cases hs : p.script_ with
  | none => simp
  | some script =>
    cases ha : fs.access with
    | false => simp
    | true =>
      cases hr : readFile P fs with
      | none => simp
      | some source =>
        simp only [Option.isNone_some, Bool.false_eq_true, if_false, Bool.not_true, reduceCtorEq, and_false, iff_false]
        split <;> simp

theorem getContext_fails_iff {p : Processor} {fs : ScriptFile} {w : World} {f : Fault} :
    getContext P p fs w = .error f ↔ f = .toLocalChecked ∧ Unloadable P p fs := by
  unfold getContext Unloadable Rebuilds
  by_cases hc : isFileChange P p fs
  · rw [if_pos hc, hc]
    cases hi : processorInitialize P (noteChange P p fs) fs w with
    | error g =>
      have hg := initialize_fails_iff.mp hi
      simp only [noteChange_script] at hg
      simp [hg.1, hg.2.1, hg.2.2.1, hg.2.2.2]
    | ok r =>
      simp only [reduceCtorEq, false_iff]
      intro h
      simp only [Bool.true_and, Bool.and_eq_true] at h
      have := (initialize_fails_iff (P := P) (p := noteChange P p fs) (w := w)).mpr ⟨rfl, h.2.1.1, h.2.1.2, h.2.2⟩
      rw [hi] at this
      cases this
  · rw [if_neg hc]
    simp [hc]

/-- A load that comes back leaves a context of the same isolate, and the templates that were there. -/
theorem getContext_returns (hP : P.Sandboxed) {p : Processor} (hp : p.Usable) {fs : ScriptFile}
    (h : ¬Unloadable P p fs) (w : World) : ∃ st p' w', getContext P p fs w = .ok (st, p', w') ∧ p'.Usable ∧
      p'.isolate_ = p.isolate_ ∧ w.statics.Le w'.statics := by
  cases hg : getContext P p fs w with
  | error f => exact absurd (getContext_fails_iff.mp hg).2 h
  | ok r =>
    obtain ⟨st, p', w'⟩ := r
    exact ⟨st, p', w', rfl, getContext_usable hp hg, (getContext_identity hg).2, (getContext_extends hP hg).statics⟩

/-! ## Listeners -/

/-- On an object whose properties are plain, `x` ends the process. -/
def Refuses {α : Type} (x : Act α) (o : ObjId) : Prop :=
  ∀ w : World, (∀ k, w.Plain o k) → x w = .error .toLocalChecked

namespace Refuses

variable {α β : Type} {o : ObjId}

theorem first {x : Act α} (hx : Refuses x o) (f : α → Act β) : Refuses (x >>= f) o := fun w hw => bind_error (hx w hw)

theorem after {x : Act α} {f : α → Act β} {kvs : List (String × JsVal)} {a : α} (hx : Stores x o kvs a)
    (hf : Refuses (f a) o) : Refuses (x >>= f) o := fun w hw => by
  rw [bind_eq (hx w hw)]
  exact hf _ (World.putData_plain hw kvs)

end Refuses

theorem ctoJString_refuses (o : ObjId) (k : String) {s : Option CString} (hs : jsString P s = none) :
    Refuses (ctoJString P o k s) o := by
  intro w _
  cases s with
  | none => cases hs
  | some s =>
    rw [ctoJString, Option.map_eq_none_iff.mp hs]
    rfl

/-- What an argument for a listener cannot be made of: a template of another isolate, strings V8 cannot hold. -/
def ArgumentFails (P : Platform) (isolate : IsolateId) (t : ObjectTemplate) (p : MessageParams) (f : Fault) : Prop :=
  (f = .wrongIsolate ∧ t.isolate ≠ isolate) ∨
  (f = .toLocalChecked ∧ t.isolate = isolate ∧ (jsString P p.to_ = none ∨ jsString P p.from_ = none))

theorem ctoJMessageParams_refuses {p : MessageParams} {w : World} {t : ObjectTemplate}
    (ht : w.statics.messageTemplate = some t) (hnone : jsString P p.to_ = none ∨ jsString P p.from_ = none) :
    ctoJMessageParams P t.isolate p w = .error .toLocalChecked := by
  have hnew : newFromStatic t.isolate w.statics.messageTemplate w = .ok (w.nextObj, (w.newInstance t).2) := by
    rw [ht, newFromStatic_own rfl]
  have plain : ∀ k, (w.newInstance t).2.Plain w.nextObj k := fun k => ⟨_, World.newInstance_plain w t k⟩
  have uint := fun k x => ctoJUint_stores (P := P) w.nextObj k x
  rw [ctoJMessageParams, get_bind, bind_eq hnew]
  refine (?_ : Refuses _ w.nextObj) _ plain
  refine .after (uint _ _) (.after (uint _ _) (.after (uint _ _) (.after (uint _ _) (.after (uint _ _)
    (.after (uint _ _) (.after (uint _ _) (.after (uint _ _) ?_)))))))
  cases hto : jsString P p.to_ with
  | none => exact (ctoJString_refuses _ _ hto).first _
  | some v =>
    refine .after (ctoJString_stores _ _ hto) ((ctoJString_refuses _ _ (hnone.resolve_left ?_)).first _)
    rw [hto]
    exact fun h => by cases h

theorem ctoJMessageParams_fails_iff {isolate : IsolateId} {p : MessageParams} {w : World} {t : ObjectTemplate}
    (ht : w.statics.messageTemplate = some t) {f : Fault} :
    ctoJMessageParams P isolate p w = .error f ↔ ArgumentFails P isolate t p f := by
  unfold ArgumentFails
  by_cases hi : t.isolate = isolate
  · subst hi
    by_cases hnone : jsString P p.to_ = none ∨ jsString P p.from_ = none
    · rw [ctoJMessageParams_refuses ht hnone]
      simp [hnone]
    · have hstr := not_or.mp hnone
      obtain ⟨to_, hto⟩ := Option.ne_none_iff_exists'.mp hstr.1
      obtain ⟨from_, hfrom⟩ := Option.ne_none_iff_exists'.mp hstr.2
      rw [ctoJMessageParams_eq ht hto hfrom]
      simp [hnone]
  · rw [ctoJMessageParams, get_bind, ht, bind_error (newFromStatic_foreign hi w)]
    simp [hi]

/-- What the two inbound paths cannot take: a script that cannot be read, and then an argument that cannot be made. -/
def CallbackFails (P : Platform) (mp : Processor) (t : ObjectTemplate) (p : MessageParams) (fs : ScriptFile)
    (f : Fault) : Prop :=
  (f = .toLocalChecked ∧ Unloadable P mp fs) ∨ (¬Unloadable P mp fs ∧ ArgumentFails P mp.isolate_ t p f)

def ListenerFails (P : Platform) (s : System) (mod : ModId) (p : MessageParams) (fs : ScriptFile) (f : Fault) : Prop :=
  (s.processor mod = none ∧ f = .nullDeref) ∨
  ∃ mp t, s.processor mod = some mp ∧ s.world.statics.messageTemplate = some t ∧ CallbackFails P mp t p fs f

section Listeners

variable (hP : P.Sandboxed) {mp : Processor} (hmp : mp.Usable) {w : World} {t : ObjectTemplate}
  (ht : w.statics.messageTemplate = some t) {p : MessageParams} {fs : ScriptFile} {f : Fault}

include hP hmp ht

/-- Both paths make a context and an argument first, and fail where that does. -/
theorem callback_fails_iff {α : Type} {x : Except Fault α}
    (hload : getContext P mp fs w = .error .toLocalChecked → x = .error .toLocalChecked)
    (hrest : ∀ st mp' u context jsFun, getContext P mp fs w = .ok (st, mp', u) → mp'.context_ = some context →
      mp'.jsMesiboOnMessage = some jsFun → (∀ g, ctoJMessageParams P mp'.isolate_ p u = .error g → x = .error g) ∧
      ∀ r, ctoJMessageParams P mp'.isolate_ p u = .ok r → ∃ a, x = .ok a) :
    x = .error f ↔ CallbackFails P mp t p fs f := by
  unfold CallbackFails
  by_cases hun : Unloadable P mp fs
  · rw [hload (getContext_fails_iff.mpr ⟨rfl, hun⟩)]
    simp [hun]
  · obtain ⟨st, mp', u, hg, hu, hiso, hle⟩ := getContext_returns hP hmp hun w
    obtain ⟨n, hc⟩ := hu.context
    obtain ⟨jsFun, hf, -⟩ := hu.listener
    obtain ⟨herr, hok⟩ := hrest st mp' u _ jsFun hg hc hf
    rw [error_iff_of herr hok, ctoJMessageParams_fails_iff (hle.message t ht), hiso]
    simp [hun]

theorem onMessage_fails_iff (message : CString) (len : UInt64) :
    onMessage P mp fs p message len w = .error f ↔ CallbackFails P mp t p fs f := by
  refine callback_fails_iff hP hmp ht (fun hg => by simp only [onMessage, hg]) fun st mp' u context jsFun hg hc hf => ?_
  refine ⟨fun g hx => by simp only [onMessage, hg, hc, hx], fun r hx => ?_⟩
  simp only [onMessage, hg, hc, hx, hf]
  split <;> exact ⟨_, rfl⟩

theorem onMessageStatus_fails_iff (status : UInt64) :
    onMessageStatus P mp fs p status w = .error f ↔ CallbackFails P mp t p fs f := by
  refine callback_fails_iff hP hmp ht (fun hg => by simp only [onMessageStatus, hg]) fun st mp' u context jsFun hg hc _ => ?_
  refine ⟨fun g hx => by simp only [onMessageStatus, hg, hc, hx], fun r hx => ?_⟩
  simp only [onMessageStatus, hg, hc, hx]
  split <;> exact ⟨_, rfl⟩

end Listeners

/-! ## Requests -/

theorem storeBody_fails_iff {b : HttpContext} (hb : b.InBounds) {buffer : Option Mem} {size : Int64} {f : Fault} :
    storeBody b buffer size = .error f ↔
      f = .outOfBounds ∧ buffer.isSome ∧ (size.toInt < 0 ∨ 2 ^ 63 ≤ b.datalen.toInt + size.toInt) := by
  cases buffer with
  | none => simp [storeBody]
  | some src =>
    obtain ⟨n, hn⟩ := Int.eq_ofNat_of_zero_le hb.1
    have hmax : n ≤ HTTP_BUFFER_LEN := by
      have := hb.2
      omega
    rw [hn]
    by_cases hover : size.toInt < 0 ∨ 2 ^ 63 ≤ (n : Int) + size.toInt
    · rw [storeBody_overruns hn hmax hover]
      simp only [error_eq_iff, Option.isSome_some, hover, and_self, and_true]
    · simp only [hover, and_false, iff_false]
      by_cases hfits : n + size.toInt ≤ HTTP_BUFFER_LEN
      · obtain ⟨d, -, he⟩ := storeBody_fits src hn (by omega) hfits
        rw [he]
        exact fun h => by cases h
      · rw [storeBody_refused hn hmax (by omega) (by omega)]
        exact fun h => by cases h

theorem derefContext_gone {a : Addr} {w : World} (h : w.https a = none) : derefContext a w = .error .useAfterFree := by
  rw [derefContext, get_bind, h]
  rfl

theorem ondata_fails_iff {a : Addr} {w : World} (hw : w.Sound) {state progress : Int64} {buffer : Option Mem}
    {size : Int64} {f : Fault} : jsMesiboHttpOndata P a state progress buffer size w = .error f ↔
      (w.https a = none ∧ f = .useAfterFree) ∨
      ∃ b, w.https a = some b ∧ f = .outOfBounds ∧ 0 ≤ progress ∧ state = P.MODULE_HTTP_STATE_RESPBODY ∧
        buffer.isSome ∧ (size.toInt < 0 ∨ 2 ^ 63 ≤ b.datalen.toInt + size.toInt) := by
  cases hb : w.https a with
  | none =>
    rw [jsMesiboHttpOndata, bind_error (derefContext_gone hb)]
    simp
  | some b =>
    have hs : ∀ g, storeBody b buffer size = .error g ↔ _ := fun g => storeBody_fails_iff (hw a b hb).inBounds
    rw [ondata_eq hb]
    simp only [reduceCtorEq, false_and, false_or, Option.some.injEq, exists_eq_left']
    by_cases hp : progress < 0
    · rw [if_pos hp]
      exact iff_of_false (fun h => by cases h) fun h => Int64.not_lt.mpr h.2.1 hp
    by_cases hst : P.MODULE_HTTP_STATE_RESPBODY ≠ state
    · rw [if_neg hp, if_pos hst]
      exact iff_of_false (fun h => by cases h) fun h => hst h.2.2.1.symm
    rw [if_neg hp, if_neg hst]
    have hst := (not_not.mp hst).symm
    cases hx : storeBody b buffer size with
    | error g =>
      obtain ⟨rfl, hover⟩ := (hs g).mp hx
      exact error_eq_iff.trans ⟨fun h => ⟨h, Int64.not_lt.mp hp, hst, hover⟩, fun h => h.1⟩
    | ok r =>
      have hno : ¬(buffer.isSome ∧ (size.toInt < 0 ∨ 2 ^ 63 ≤ b.datalen.toInt + size.toInt)) := fun h => by
        cases hx.symm.trans ((hs .outOfBounds).mpr ⟨rfl, h⟩)
      cases r <;> exact iff_of_false (fun h => by cases h) fun h => hno h.2.2.2

theorem onstatus_fails_iff {a : Addr} {w : World} (hw : w.Sound) {status : Int64} {responseType : Option CString}
    {f : Fault} : jsMesiboHttpOnstatus P a status responseType w = .error f ↔
      ∃ t, responseType = some t ∧ ((w.https a = none ∧ f = .useAfterFree) ∨
        ((w.https a).isSome ∧ f = .outOfBounds ∧ HTTP_RESPONSE_TYPE_LEN + HTTP_BUFFER_LEN < t.bytes.length)) := by
  cases responseType with
  | none => simp [jsMesiboHttpOnstatus]
  | some t =>
    cases hb : w.https a with
    | none =>
      rw [jsMesiboHttpOnstatus, bind_error (derefContext_gone hb)]
      simp
    | some b =>
      obtain ⟨mod, hm⟩ := Option.isSome_iff_exists.mp (hw a b hb).mod
      rw [onstatus_eq hb hm, storeStatus]
      by_cases hl : HTTP_RESPONSE_TYPE_LEN + HTTP_BUFFER_LEN < t.bytes.length
      · simp [hl]
      · simp [hl]

theorem onclose_fails_iff (hP : P.Sandboxed) {s : System} (hs : s.Sound) {a : Addr} {result : Int64} {fs : ScriptFile}
    {f : Fault} : jsMesiboHttpOnclose P a result fs s = .error f ↔ result ≠ P.MESIBO_RESULT_FAIL ∧
      ((s.world.https a = none ∧ f = .useAfterFree) ∨
      ∃ b mod, s.world.https a = some b ∧ b.mod = some mod ∧ ((s.processor mod = none ∧ f = .nullDeref) ∨
        ∃ mp, s.processor mod = some mp ∧ f = .toLocalChecked ∧ Unloadable P mp fs)) := by
  by_cases hr : result = P.MESIBO_RESULT_FAIL
  · subst hr
    simp [onclose_fail]
  cases hb : s.world.https a with
  | none =>
    rw [onclose_gone hr hb]
    simp [hr]
  | some b =>
    obtain ⟨mod, o, harm⟩ := (hs.requests a b hb).armed
    cases hvc : s.configs mod with
    | none =>
      have hproc : s.processor mod = none := by rw [System.processor, hvc]; rfl
      simp [jsMesiboHttpOnclose, hb, harm.mod, hvc, hproc, hr, Ne.symm hr]
    | some vc =>
      obtain ⟨mp, hctx⟩ := Option.isSome_iff_exists.mp (hs.configs mod vc hvc)
      have hproc : s.processor mod = some mp := by rw [System.processor, hvc]; exact hctx
      by_cases hload : Unloadable P mp fs
      · have hg : getContext P mp fs s.world = .error .toLocalChecked := getContext_fails_iff.mpr ⟨rfl, hload⟩
        simp [jsMesiboHttpOnclose, hb, harm.mod, hvc, hctx, hg, hproc, hr, Ne.symm hr, hload]
      · obtain ⟨st, mp', u, hg, hu, -, -⟩ := getContext_returns hP (hs.processors mod mp hproc) hload s.world
        obtain ⟨n, hc⟩ := hu.context
        obtain ⟨v, -, hok⟩ := onclose_delivers hP (hs.addresses a b hb) hb harm hr hproc hg (by rw [hc]; rfl)
        simp [hok, harm.mod, hproc, hr, hload]

/-! ## Calls of the host -/

/-- What an initialisation cannot take, in the order it is found: no `log` entry, no `script` entry, a `v8::Locker`
    that there has been, a script that cannot be read. -/
def InitFails (P : Platform) (s : System) (config : ModuleConfig) (fs : ScriptFile) (f : Fault) : Prop :=
  (config.log = none ∧ f = .nullDeref) ∨
  (config.log.isSome ∧ config.script = none ∧ f = .strdupNull) ∨
  (config.log.isSome ∧ config.script.isSome ∧ ((s.locker = true ∧ f = .notLocked) ∨
    (s.locker = false ∧ f = .toLocalChecked ∧ fs.access = true ∧ readFile P fs = none)))

/-- What ends the process at this call. -/
def Event.Fails (P : Platform) (s : System) : Event → Fault → Prop
  | .moduleInit _ config fs, f => ∃ c, config = some c ∧ InitFails P s c fs f
  | .message mod p _ _ fs, f => ListenerFails P s mod p fs f
  | .messageStatus mod p _ fs, f => ListenerFails P s mod p fs f
  | .httpData a state progress buffer size, f =>
    (s.world.https a = none ∧ f = .useAfterFree) ∨
    ∃ b, s.world.https a = some b ∧ f = .outOfBounds ∧ 0 ≤ progress ∧ state = P.MODULE_HTTP_STATE_RESPBODY ∧
      buffer.isSome ∧ (size.toInt < 0 ∨ 2 ^ 63 ≤ b.datalen.toInt + size.toInt)
  | .httpStatus a _ responseType, f =>
    ∃ t, responseType = some t ∧ ((s.world.https a = none ∧ f = .useAfterFree) ∨
      ((s.world.https a).isSome ∧ f = .outOfBounds ∧ HTTP_RESPONSE_TYPE_LEN + HTTP_BUFFER_LEN < t.bytes.length))
  | .httpClose a result fs, f =>
    result ≠ P.MESIBO_RESULT_FAIL ∧ ((s.world.https a = none ∧ f = .useAfterFree) ∨
      ∃ b mod, s.world.https a = some b ∧ b.mod = some mod ∧ ((s.processor mod = none ∧ f = .nullDeref) ∨
        ∃ mp, s.processor mod = some mp ∧ f = .toLocalChecked ∧ Unloadable P mp fs))

theorem exec_fails {α : Type} {s : System} {x : Act α} {f : Fault} : s.exec x = .error f ↔ x s.world = .error f := by
  unfold System.exec
  cases x s.world <;> simp

theorem returned_fails {α : Type} {x : Except Fault (α × System)} {f : Fault} :
    System.returned x = .error f ↔ x = .error f := by
  cases x <;> simp [System.returned]

theorem initialisation_fails_iff {m : ModId} {config : Option ModuleConfig} {fs : ScriptFile} {s : System} {f : Fault} :
    mesiboModuleV8Init P m config fs s = .error f ↔ ∃ c, config = some c ∧ InitFails P s c fs f := by
  rcases config with _ | ⟨_ | script, _ | log⟩
  · simp [mesiboModuleV8Init]
  · simp [mesiboModuleV8Init, InitFails]
  · simp [mesiboModuleV8Init, mesiboV8Init, InitFails]
  · simp [mesiboModuleV8Init, InitFails]
  · cases hl : s.locker with
    | true => simp [mesiboModuleV8Init, mesiboV8Init, InitFails, hl]
    | false =>
      have hi : mesiboModuleV8Init P m (some ⟨some script, some log⟩) fs s = .error f ↔ processorInitialize P
          (.new m (some script) s.nextIsolate) fs { s.world with live := .str :: s.world.live } = .error f := by
        refine error_iff_of (fun g hg => by simp [mesiboModuleV8Init, mesiboV8Init, hl, hg]) fun r hr => ?_
        by_cases hf : P.MESIBO_RESULT_FAIL = r.1 <;> simp [mesiboModuleV8Init, mesiboV8Init, hl, hr, hf]
      rw [hi, initialize_fails_iff]
      simp [Processor.new, InitFails, hl]

theorem v8OnMessage_fails_iff (hP : P.Sandboxed) {s : System} (hs : s.Sound) {mod : ModId} {p : MessageParams}
    {message : CString} {len : UInt64} {fs : ScriptFile} {f : Fault} :
    v8OnMessage P mod p message len fs s = .error f ↔ ListenerFails P s mod p fs f := by
  cases hm : s.processor mod with
  | none => simp [v8OnMessage, ListenerFails, hm]
  | some mp =>
    have hx : v8OnMessage P mod p message len fs s = .error f ↔
        onMessage P mp fs p message len (cloneParams p s.world) = .error f :=
      error_iff_of (fun g h => by simp only [v8OnMessage, hm, h]) fun r h =>
        ⟨(r.1, s.lock.putProcessor mod r.2.1 r.2.2), by simp only [v8OnMessage, hm, h]⟩
    obtain ⟨t, ht⟩ := Option.isSome_iff_exists.mp (hs.templates mod mp hm)
    rw [hx, onMessage_fails_iff hP (hs.processors mod mp hm) (w := cloneParams p s.world) ht]
    simp [ListenerFails, hm, ht]

theorem v8OnMessageStatus_fails_iff (hP : P.Sandboxed) {s : System} (hs : s.Sound) {mod : ModId} {p : MessageParams}
    {status : UInt64} {fs : ScriptFile} {f : Fault} :
    v8OnMessageStatus P mod p status fs s = .error f ↔ ListenerFails P s mod p fs f := by
  cases hm : s.processor mod with
  | none => simp [v8OnMessageStatus, ListenerFails, hm]
  | some mp =>
    have hx : v8OnMessageStatus P mod p status fs s = .error f ↔
        onMessageStatus P mp fs p status (cloneParams p s.world) = .error f :=
      error_iff_of (fun g h => by simp only [v8OnMessageStatus, hm, h]) fun r h =>
        ⟨(r.1, s.lock.putProcessor mod r.2.1 r.2.2), by simp only [v8OnMessageStatus, hm, h]⟩
    obtain ⟨t, ht⟩ := Option.isSome_iff_exists.mp (hs.templates mod mp hm)
    rw [hx, onMessageStatus_fails_iff hP (hs.processors mod mp hm) (w := cloneParams p s.world) ht]
    simp [ListenerFails, hm, ht]

theorem step_fails_iff (hP : P.Sandboxed) {s : System} (hs : s.Sound) {e : Event} {f : Fault} :
    step P s e = .error f ↔ e.Fails P s f := by
  cases e with
  | moduleInit m config fs => exact returned_fails.trans initialisation_fails_iff
  | message mod p message len fs => exact returned_fails.trans (v8OnMessage_fails_iff hP hs)
  | messageStatus mod p status fs => exact returned_fails.trans (v8OnMessageStatus_fails_iff hP hs)
  | httpData a state progress buffer size => exact exec_fails.trans (ondata_fails_iff hs.requests)
  | httpStatus a status responseType => exact exec_fails.trans (onstatus_fails_iff hs.requests)
  | httpClose a result fs => exact onclose_fails_iff hP hs

/-- The host ends the process at the first call that is on the list. -/
theorem run_fails_iff (hP : P.Sandboxed) {es : List Event} {f : Fault} : run (step P) .start es = .error f ↔
    ∃ before e after s, es = before ++ e :: after ∧ run (step P) .start before = .ok s ∧ e.Fails P s f := by
  rw [run_error]
  refine exists_congr fun before => exists_congr fun e => exists_congr fun after => exists_congr fun s => ?_
  refine and_congr_right fun _ => and_congr_right fun hs => ?_
  exact step_fails_iff hP (run_sound hP hs)

/-- A message for a module that was not initialised. -/
theorem run_fails_fetching : run (step .fetching) .start (fetchingRun ++ [.message 1 ⟨1, 2, 0, 0, 0, 0, 3600, 0, none, none⟩
    (.ofBytes []) 0 ⟨some 1, true, some []⟩]) = .error .nullDeref := by
  obtain ⟨s, h, hm⟩ : ∃ s, run (step .fetching) .start fetchingRun = .ok s ∧ s.processor 1 = none := ⟨_, rfl, rfl⟩
  exact (run_fails_iff (Platform.calling_sandboxed _)).mpr ⟨fetchingRun, _, [], s, rfl, h, .inl ⟨hm, rfl⟩⟩

end MesiboV8
