/-
  MesiboV8.Frames — what the entry points of the module do, and what they leave alone.

  A relation on worlds that holds across every primitive step of loading a script
  (`LoadFrame`), or of any work the host asks for (`HostFrame`), holds across a whole
  `GetContext`, initialisation or callback. What scripts do is one of the steps: each
  instance says for itself why its relation survives them.
-/

import MesiboV8.System
import MesiboV8.Params

namespace MesiboV8

open Lib.Bytes Lib.Utf Lib.Effects Act

variable {P : Platform} {R : World → World → Prop}

/-! ## The entry points taken apart -/

theorem executeJsFunctionObj_world (context : CtxId) (jsFun : JsVal) (args : List JsVal) (w : World) :
    (executeJsFunctionObj P context jsFun args w).2 =
      (P.call context jsFun args { w with invoked := w.invoked ++ [⟨jsFun, args, w.heap⟩] }).2 := by
  unfold executeJsFunctionObj
  dsimp only
  split
  · rename_i he; rw [he]
  · rename_i he; rw [he]; split <;> rfl

theorem onMessage_cases {p p' : Processor} {fs : ScriptFile} {params : MessageParams} {message : CString} {len : UInt64}
    {w w' : World} {rv : Int64} (h : onMessage P p fs params message len w = .ok (rv, p', w')) :
    ∃ st u context o v jsFun, getContext P p fs w = .ok (st, p', u) ∧ p'.context_ = some context ∧
      ctoJMessageParams P p'.isolate_ params u = .ok (o, v) ∧ p'.jsMesiboOnMessage = some jsFun ∧
      ((jsFun.isNullOrUndefined ∧ w' = v) ∨ executeJsFunctionObj P context jsFun [.object o] v = (rv, w')) := by
  unfold onMessage at h
  split at h
  · cases h
  rename_i hg
  split at h
  · cases h
  rename_i hc
  split at h
  · cases h
  rename_i ho
  split at h
  · cases h
  rename_i hf
  split at h
  · rename_i hn
    cases h
    exact ⟨_, _, _, _, _, _, hg, hc, ho, hf, .inl ⟨hn, rfl⟩⟩
  · cases h
    exact ⟨_, _, _, _, _, _, hg, hc, ho, hf, .inr rfl⟩

theorem onMessageStatus_cases {p p' : Processor} {fs : ScriptFile} {params : MessageParams} {status : UInt64}
    {w w' : World} {rv : Int64} (h : onMessageStatus P p fs params status w = .ok (rv, p', w')) :
    ∃ st u context o v jsFun, getContext P p fs w = .ok (st, p', u) ∧ p'.context_ = some context ∧
      ctoJMessageParams P p'.isolate_ params u = .ok (o, v) ∧
      (w' = v ∨ executeJsFunctionObj P context jsFun [.object o, .ofUint32 status.toUInt32] v = (rv, w')) := by
  unfold onMessageStatus at h
  split at h
  · cases h
  rename_i hg
  split at h
  · cases h
  rename_i hc
  split at h
  · cases h
  rename_i ho
  dsimp only at h
  split at h
  · cases h
    exact ⟨_, _, _, _, _, .null, hg, hc, ho, .inl rfl⟩
  · cases h
    exact ⟨_, _, _, _, _, _, hg, hc, ho, .inr rfl⟩

theorem v8OnMessage_cases {mod : ModId} {p : MessageParams} {message : CString} {len : UInt64} {fs : ScriptFile}
    {s t : System} {rv : Int64} (h : v8OnMessage P mod p message len fs s = .ok (rv, t)) :
    ∃ mp mp' w, s.processor mod = some mp ∧
      onMessage P mp fs p message len (cloneParams p s.world) = .ok (rv, mp', w) ∧ t = s.lock.putProcessor mod mp' w := by
  unfold v8OnMessage at h
  split at h
  · cases h
  rename_i hm
  split at h
  · cases h
  rename_i ho
  cases h
  exact ⟨_, _, _, hm, ho, rfl⟩

theorem v8OnMessageStatus_cases {mod : ModId} {p : MessageParams} {status : UInt64} {fs : ScriptFile}
    {s t : System} {rv : Int64} (h : v8OnMessageStatus P mod p status fs s = .ok (rv, t)) :
    ∃ mp mp' w, s.processor mod = some mp ∧
      onMessageStatus P mp fs p status (cloneParams p s.world) = .ok (rv, mp', w) ∧ t = s.lock.putProcessor mod mp' w := by
  unfold v8OnMessageStatus at h
  split at h
  · cases h
  rename_i hm
  split at h
  · cases h
  rename_i ho
  cases h
  exact ⟨_, _, _, hm, ho, rfl⟩

/-- An initialisation loads a script into a new processor, which the module gets if that succeeds. -/
theorem initialisation_returns {m : ModId} {config : Option ModuleConfig} {fs : ScriptFile} {s t : System} {rv : Int64}
    (h : mesiboModuleV8Init P m config fs s = .ok (rv, t)) :
    (config = none ∧ rv = P.MESIBO_RESULT_FAIL ∧ t = s) ∨
    ∃ script log rv' p w, config = some ⟨some script, some log⟩ ∧ s.locker = false ∧
      processorInitialize P (.new m (some script) s.nextIsolate) fs { s.world with live := .str :: s.world.live } =
        .ok (rv', p, w) ∧
      ((rv' = P.MESIBO_RESULT_FAIL ∧ rv = P.MESIBO_RESULT_FAIL ∧
          t = { s with world := w, nextIsolate := s.nextIsolate + 1 }) ∨
        (rv' ≠ P.MESIBO_RESULT_FAIL ∧ rv = P.MESIBO_RESULT_OK ∧
          t = { s with nextIsolate := s.nextIsolate + 1 }.putProcessor m p w)) := by
  rcases config with _ | ⟨_ | script, _ | log⟩
  · cases h
    exact .inl ⟨rfl, rfl, rfl⟩
  · cases h
  · cases h
  · cases h
  · cases hl : s.locker with
    | true => simp [mesiboModuleV8Init, mesiboV8Init, hl] at h
    | false =>
      cases hi : processorInitialize P (.new m (some script) s.nextIsolate) fs
          { s.world with live := .str :: s.world.live } with
      | error f => simp [mesiboModuleV8Init, mesiboV8Init, hl, hi] at h
      | ok r =>
        obtain ⟨rv', p, w⟩ := r
        refine .inr ⟨script, log, rv', p, w, rfl, rfl, hi, ?_⟩
        by_cases hf : P.MESIBO_RESULT_FAIL = rv'
        · simp [mesiboModuleV8Init, mesiboV8Init, hl, hi, hf] at h
          exact .inl ⟨hf.symm, by rw [← h.1, hf], h.2.symm⟩
        · simp [mesiboModuleV8Init, mesiboV8Init, hl, hi, hf] at h
          exact .inr ⟨Ne.symm hf, h.1.symm, h.2.symm⟩

/-- What becomes of the process, whatever is returned. -/
theorem initialisation_cases {m : ModId} {config : Option ModuleConfig} {fs : ScriptFile} {s t : System} {rv : Int64}
    (h : mesiboModuleV8Init P m config fs s = .ok (rv, t)) :
    (config = none ∧ t = s) ∨ ∃ script log rv' p w, config = some ⟨some script, some log⟩ ∧ s.locker = false ∧
      processorInitialize P (.new m (some script) s.nextIsolate) fs { s.world with live := .str :: s.world.live } =
        .ok (rv', p, w) ∧
      t = if rv' = P.MESIBO_RESULT_FAIL then { s with world := w, nextIsolate := s.nextIsolate + 1 }
        else { s with nextIsolate := s.nextIsolate + 1 }.putProcessor m p w := by
  rcases initialisation_returns h with ⟨hc, -, ht⟩ |
    ⟨script, log, rv', p, w, hc, hl, hi, ⟨hf, -, ht⟩ | ⟨hf, -, ht⟩⟩
  · exact .inl ⟨hc, ht⟩
  · exact .inr ⟨script, log, rv', p, w, hc, hl, hi, ht.trans (if_pos hf).symm⟩
  · exact .inr ⟨script, log, rv', p, w, hc, hl, hi, ht.trans (if_neg hf).symm⟩

theorem onclose_cases {a : Addr} {result : Int64} {fs : ScriptFile} {s t : System}
    (h : jsMesiboHttpOnclose P a result fs s = .ok t) :
    t = s ∨ ∃ mod mp st mp' u w, s.processor mod = some mp ∧ getContext P mp fs s.world = .ok (st, mp', u) ∧
      deliverResponse P mp'.context_ a u = .ok ((), w) ∧ t = s.lock.putProcessor mod mp' w := by
  unfold jsMesiboHttpOnclose at h
  split at h
  · cases h; exact .inl rfl
  split at h
  · cases h
  split at h
  · cases h; exact .inl rfl
  split at h
  · cases h
  rename_i hvc
  split at h
  · cases h; exact .inl rfl
  rename_i hmp
  split at h
  · cases h
  rename_i hg
  split at h
  · cases h
  rename_i hd
  cases h
  exact .inr ⟨_, _, _, _, _, _, by rw [System.processor, hvc]; exact hmp, hg, hd, rfl⟩

/-! ## Stored properties -/

/-- To store a string is to store some value. -/
theorem ctoJString_ok {o : ObjId} {k : String} {x : Option CString} {w u : World} {rv : Int64}
    (h : ctoJString P o k x w = .ok (rv, u)) : ∃ v, setParam P o k v w = .ok (rv, u) := by
  cases x with
  | none => exact ⟨.null, h⟩
  | some s =>
    rw [ctoJString, bind_ok] at h
    obtain ⟨v, w', hv, h⟩ := h
    obtain ⟨-, rfl⟩ := toLocalChecked_ok hv
    exact ⟨.str v, h⟩

theorem ctoJString_keeps {o : ObjId} {k : String} (h : ∀ v, Keeps R (setParam P o k v)) (x : Option CString) :
    Keeps R (ctoJString P o k x) := fun _ _ _ hx =>
  have ⟨v, hv⟩ := ctoJString_ok hx
  h v _ _ _ hv

theorem fromHost_ok {α : Type} {x : Act α} {w u : World} {a : α} (h : fromHost x w = .ok (a, u)) :
    ∃ v, x w = .ok (a, v) ∧ u = { v with pending := w.pending } := by
  unfold fromHost at h
  cases hx : x w with
  | error f => rw [hx] at h; cases h
  | ok r => rw [hx] at h; cases h; exact ⟨r.2, rfl, rfl⟩

/-- Of a store without a call below it nothing is pending. -/
theorem fromHost_setParam (o : ObjId) (k : String) (v : JsVal) (w : World) :
    ∃ rv, fromHost (setParam P o k v) w = .ok (rv, (w.set o k v).2) := by
  obtain ⟨rv, h⟩ := setParam_eq (P := P) o k v w
  exact ⟨rv, by rw [fromHost, h]; rfl⟩

theorem hostUint_keeps {o : ObjId} {k : String} (h : ∀ v w, R w (w.set o k v).2) (x : UInt64) :
    Keeps R (fromHost (ctoJUint P o k x)) := fun w a u hx => by
  obtain ⟨rv, he⟩ := fromHost_setParam (P := P) o k (.ofUint32 x.toUInt32) w
  cases he.symm.trans hx
  exact h _ w

theorem hostString_keeps {o : ObjId} {k : String} (h : ∀ v w, R w (w.set o k v).2) (x : Option CString) :
    Keeps R (fromHost (ctoJString P o k x)) := fun w a u hx => by
  obtain ⟨u', hs, rfl⟩ := fromHost_ok hx
  obtain ⟨v, hv⟩ := ctoJString_ok hs
  rw [setParam_world hv]
  exact h v w

/-- `CtoJ_MessageParams` makes a new object of the template, and then only stores parameters on it. -/
theorem ctoJMessageParams_keeps [Std.Refl R] [IsTrans World R] {isolate : IsolateId} {p : MessageParams} {w u : World}
    {o : ObjId} (hx : ctoJMessageParams P isolate p w = .ok (o, u))
    (h : ∀ k ∈ paramKeys, ∀ v, Keeps R (setParam P w.nextObj k v)) :
    ∃ t, w.statics.messageTemplate = some t ∧ t.isolate = isolate ∧ o = w.nextObj ∧ R (w.newInstance t).2 u := by
  rw [ctoJMessageParams, get_bind, bind_ok] at hx
  obtain ⟨o', v, hnew, hx⟩ := hx
  obtain ⟨t, ht, hi, rfl, rfl⟩ := newFromStatic_ok hnew
  refine ⟨t, ht, hi, ?_, ?_⟩
  · refine (?_ : Yields w.nextObj _) _ _ _ hx
    repeat refine .bind fun _ => ?_
    exact .pure _
  · have uint := fun k (hk : k ∈ paramKeys) (x : UInt64) => h k hk (.ofUint32 x.toUInt32)
    have str := fun k (hk : k ∈ paramKeys) => ctoJString_keeps (h k hk)
    refine (?_ : Keeps R _) _ _ _ hx
    refine .bind (uint MESSAGE_AID (by decide) _) fun _ => .bind (uint MESSAGE_ID (by decide) _) fun _ =>
      .bind (uint MESSAGE_REFID (by decide) _) fun _ => .bind (uint MESSAGE_GROUPID (by decide) _) fun _ =>
      .bind (uint MESSAGE_FLAGS (by decide) _) fun _ => .bind (uint MESSAGE_TYPE (by decide) _) fun _ =>
      .bind (uint MESSAGE_EXPIRY (by decide) _) fun _ => .bind (uint MESSAGE_TO_ONLINE (by decide) _) fun _ => ?_
    exact .bind (str MESSAGE_TO (by decide) _) fun _ => .bind (str MESSAGE_FROM (by decide) _) fun _ => .pure _

/-! ## Loading -/

structure LoadFrame (P : Platform) (R : World → World → Prop) : Prop where
  refl : ∀ w, R w w
  trans : ∀ {w u v}, R w u → R u v → R w v
  statics : ∀ p w, R w { w with statics := setCallables p w.statics }
  newInstance : ∀ (t : ObjectTemplate) w, R w (w.newInstance t).2
  globals : ∀ g l w, R w { w with globals := g, globalObjects := l }
  run : ∀ context script w, R w (P.run context script w).2

namespace LoadFrame

variable (h : LoadFrame P R)

include h

theorem contextNew (p : Processor) (w : World) : R w (contextNew P p w).2 :=
  h.trans (h.trans (h.newInstance _ _) (h.newInstance _ _)) (h.globals _ _ _)

theorem executeScript (p : Processor) (script : JsString) (w : World) : R w (executeScript P p script w).2.2 := by
  have hnew := h.contextNew p w
  unfold MesiboV8.executeScript
  dsimp only
  split
  · exact hnew
  · rename_i compiled _
    have hrun := h.trans hnew (h.run (MesiboV8.contextNew P p w).1 compiled (MesiboV8.contextNew P p w).2)
    split
    · rename_i v hv
      rw [hv] at hrun
      exact hrun
    · rename_i r v hv
      rw [hv] at hrun
      split <;> exact hrun

/-- The templates are set before anything else is done. -/
theorem initialize_statics {p p' : Processor} {fs : ScriptFile} {w w' : World} {rv : Int64}
    (hi : processorInitialize P p fs w = .ok (rv, p', w')) : R { w with statics := setCallables p w.statics } w' := by
  unfold processorInitialize at hi
  dsimp only at hi
  split at hi
  · cases hi; exact h.refl _
  · split at hi
    · cases hi; exact h.refl _
    · split at hi
      · cases hi
      · rename_i source _
        have he := h.executeScript p source { w with statics := setCallables p w.statics }
        split at hi <;> cases hi <;> exact he

theorem loads {p p' : Processor} {fs : ScriptFile} {w w' : World} {rv : Int64}
    (hi : processorInitialize P p fs w = .ok (rv, p', w')) : R w w' := h.trans (h.statics p w) (h.initialize_statics hi)

theorem getContext {p p' : Processor} {fs : ScriptFile} {w w' : World} {st : Option Int64}
    (hg : getContext P p fs w = .ok (st, p', w')) : R w w' := by
  unfold MesiboV8.getContext at hg
  split at hg
  · split at hg
    · rename_i hi
      cases hg
      exact h.loads hi
    · cases hg
  · cases hg
    exact h.refl w

end LoadFrame

/-! ## Callbacks -/

structure HostFrame (P : Platform) (R : World → World → Prop) : Prop extends LoadFrame P R where
  set : ∀ o k v x w, R w { (w.set o k v).2 with pending := x }
  live : ∀ l w, R w { w with live := l }
  invoked : ∀ i w, R w { w with invoked := i }
  call : ∀ context f args w, R w (P.call context f args w).2

namespace HostFrame

variable (h : HostFrame P R)

include h

theorem setParam (o : ObjId) (k : String) (v : JsVal) : Keeps R (setParam P o k v) := fun w a u hx => by
  rw [setParam_world hx]
  exact h.set o k v _ w

theorem hostStores (o : ObjId) (k : String) (v : JsVal) (w : World) : R w (w.set o k v).2 := h.set o k v w.pending w

theorem ctoJMessageParams (isolate : IsolateId) (p : MessageParams) : Keeps R (ctoJMessageParams P isolate p) := by
  have : Std.Refl R := ⟨h.refl⟩
  have : IsTrans World R := ⟨fun _ _ _ => h.trans⟩
  intro w o u hx
  obtain ⟨t, -, -, -, hu⟩ := ctoJMessageParams_keeps hx fun k _ => h.setParam w.nextObj k
  exact h.trans (h.newInstance t w) hu

theorem executeJsFunctionObj {context : CtxId} {jsFun : JsVal} {args : List JsVal} {w u : World} {rv : Int64}
    (hx : executeJsFunctionObj P context jsFun args w = (rv, u)) : R w u := by
  have hu : u = _ := (congrArg Prod.snd hx).symm.trans (executeJsFunctionObj_world context jsFun args w)
  rw [hu]
  exact h.trans (h.invoked _ w) (h.call _ _ _ _)

theorem onMessage {p p' : Processor} {fs : ScriptFile} {params : MessageParams} {message : CString} {len : UInt64}
    {w w' : World} {rv : Int64} (hx : onMessage P p fs params message len w = .ok (rv, p', w')) : R w w' := by
  obtain ⟨st, u, context, o, v, jsFun, hg, -, ho, -, hw⟩ := onMessage_cases hx
  have hv := h.trans (h.getContext hg) (h.ctoJMessageParams _ params _ _ _ ho)
  rcases hw with ⟨-, rfl⟩ | hw
  · exact hv
  · exact h.trans hv (h.executeJsFunctionObj hw)

theorem onMessageStatus {p p' : Processor} {fs : ScriptFile} {params : MessageParams} {status : UInt64}
    {w w' : World} {rv : Int64} (hx : onMessageStatus P p fs params status w = .ok (rv, p', w')) : R w w' := by
  obtain ⟨st, u, context, o, v, jsFun, hg, -, ho, hw⟩ := onMessageStatus_cases hx
  have hv := h.trans (h.getContext hg) (h.ctoJMessageParams _ params _ _ _ ho)
  rcases hw with rfl | hw
  · exact hv
  · exact h.trans hv (h.executeJsFunctionObj hw)

end HostFrame

end MesiboV8
