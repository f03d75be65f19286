/-
  MesiboV8.Soundness — what holds of every state a process can reach (`run_sound`).

  A module that is initialised has all a callback needs: a path to its script, a context of
  its own isolate, a handle on its listener that is not empty, and the templates. A failed
  reload takes none of it away. A live request has its module, its object and its function,
  and a length that `buffer` can have. So what a callback looks up there it finds.
-/

import MesiboV8.HttpLedger
import MesiboV8.Listeners

namespace MesiboV8

open Lib.Bytes Lib.Utf Lib.Effects Lib.Runs Lib.Tokens Act Relation

variable {P : Platform}

/-- What a table holds after an entry was written is that entry, or was there before. -/
theorem update_some {ι α : Type} [DecidableEq ι] {f : ι → Option α} {i j : ι} {x : Option α} {a : α}
    (h : Function.update f i x j = some a) : (j = i ∧ x = some a) ∨ (j ≠ i ∧ f j = some a) := by
  by_cases e : j = i
  · subst e
    rw [Function.update_self] at h
    exact .inl ⟨rfl, h⟩
  · rw [Function.update_of_ne e] at h
    exact .inr ⟨e, h⟩

/-! ## Processors -/

/-- The listener is a function, or null where the script had none. -/
structure Processor.Usable (p : Processor) : Prop where
  script : p.script_.isSome
  context : ∃ n, p.context_ = some ⟨p.isolate_, n⟩
  listener : ∃ f, p.jsMesiboOnMessage = some f ∧ (f = .null ∨ f.isFunction)

theorem contextNew_isolate {p : Processor} {w v : World} {context : CtxId} (h : contextNew P p w = (context, v)) :
    ∃ n, context = ⟨p.isolate_, n⟩ := by
  cases h
  exact ⟨_, rfl⟩

theorem getGlobalFunction_callable (context : CtxId) (k : String) (w : World) :
    getGlobalFunction context k w = .null ∨ (getGlobalFunction context k w).isFunction :=
  (getGlobalFunction_cases context k w).imp id Listener.isFunction

/-- A load that is not OK leaves a usable processor usable, and one that is makes any so. -/
theorem initialize_usable {p p' : Processor} {fs : ScriptFile} {w w' : World} {rv : Int64}
    (h : processorInitialize P p fs w = .ok (rv, p', w')) (hp : p.Usable ∨ rv ≠ P.MESIBO_RESULT_FAIL) : p'.Usable := by
  rcases initialize_cases h with ⟨-, hrv, rfl⟩ | ⟨hs, ha, -, source, hr, -⟩
  · exact hp.resolve_right fun hn => hn hrv
  · rw [initialize_executes hs ha hr] at h
    obtain ⟨context, u, ⟨hf, he⟩ | ⟨hc, he⟩⟩ := executeScript_cases (P := P) p source (w.loading p)
    · rw [he] at h
      cases h
      have hp := hp.resolve_right fun hn => hn rfl
      obtain ⟨v, hn, -⟩ := hf
      obtain ⟨n, rfl⟩ := contextNew_isolate hn
      exact ⟨hs, ⟨n, rfl⟩, hp.listener⟩
    · rw [he] at h
      cases h
      obtain ⟨compiled, r, v, hn, -, -⟩ := hc
      obtain ⟨n, rfl⟩ := contextNew_isolate hn
      exact ⟨hs, ⟨n, rfl⟩, ⟨_, rfl, getGlobalFunction_callable _ _ _⟩⟩

theorem getContext_usable {p p' : Processor} {fs : ScriptFile} {w w' : World} {st : Option Int64} (hp : p.Usable)
    (h : getContext P p fs w = .ok (st, p', w')) : p'.Usable := by
  rcases getContext_cases h with ⟨-, -, rfl, -⟩ | ⟨rv, -, -, hi⟩
  · exact ⟨hp.script, hp.context, hp.listener⟩
  · exact initialize_usable hi (.inl ⟨hp.script, hp.context, hp.listener⟩)

/-- What becomes of the modules' `ctx`. -/
theorem step_configs {e : Event} {s t : System} (h : step P s e = .ok t) :
    t.configs = s.configs ∨ ∃ m p, t.configs = Function.update s.configs m (some ⟨some p⟩) := by
  cases e with
  | moduleInit m config fs =>
    obtain ⟨rv, h⟩ := returned_ok.mp h
    rcases initialisation_cases h with ⟨-, rfl⟩ | ⟨script, log, rv', p, w, -, -, -, rfl⟩
    · exact .inl rfl
    · split
      · exact .inl rfl
      · exact .inr ⟨m, p, rfl⟩
  | message m p message len fs =>
    obtain ⟨rv, h⟩ := returned_ok.mp h
    obtain ⟨mp, mp', w, -, -, rfl⟩ := v8OnMessage_cases h
    exact .inr ⟨m, mp', rfl⟩
  | messageStatus m p status fs =>
    obtain ⟨rv, h⟩ := returned_ok.mp h
    obtain ⟨mp, mp', w, -, -, rfl⟩ := v8OnMessageStatus_cases h
    exact .inr ⟨m, mp', rfl⟩
  | httpData a state progress buffer size =>
    obtain ⟨rv, w, -, rfl⟩ := exec_ok.mp h
    exact .inl rfl
  | httpStatus a status responseType =>
    obtain ⟨rv, w, -, rfl⟩ := exec_ok.mp h
    exact .inl rfl
  | httpClose a result fs =>
    rcases onclose_cases h with rfl | ⟨m, mp, st, mp', u, w, -, -, -, rfl⟩
    · exact .inl rfl
    · exact .inr ⟨m, mp', rfl⟩

/-- Every module that has a `ctx` has a usable processor. -/
structure System.Usable (s : System) : Prop where
  configs : ∀ m vc, s.configs m = some vc → vc.ctx.isSome
  processors : ∀ m p, s.processor m = some p → p.Usable

theorem step_usable {e : Event} {s t : System} (hs : s.Usable) (h : step P s e = .ok t) : t.Usable where
  configs := fun m vc hm => by
    rcases step_configs h with ht | ⟨m', p, ht⟩
    · exact hs.configs m vc (ht ▸ hm)
    · rw [ht] at hm
      rcases update_some hm with ⟨-, hp⟩ | ⟨-, hm⟩
      · cases hp
        rfl
      · exact hs.configs m vc hm
  processors := fun m p hp => by
    rcases step_processors h with ht | ⟨m', q, q', st, fs, u, v, hq, hg, ht⟩ |
      ⟨m', script, log, fs, q, rv, u, v, -, hi, hrv, ht⟩
    · exact hs.processors m p (ht ▸ hp)
    · rw [ht] at hp
      rcases update_some hp with ⟨-, hp⟩ | ⟨-, hp⟩
      · cases hp
        exact getContext_usable (hs.processors m' q hq) hg
      · exact hs.processors m p hp
    · rw [ht] at hp
      rcases update_some hp with ⟨-, hp⟩ | ⟨-, hp⟩
      · cases hp
        exact initialize_usable hi (.inr hrv)
      · exact hs.processors m p hp

/-! ## Requests -/

/-- A context that can be called back. -/
structure HttpContext.Sound (b : HttpContext) : Prop where
  mod : b.mod.isSome
  httpObj : b.httpObj.isSome
  httpCb : b.httpCb.isFunction
  inBounds : b.InBounds

theorem HttpContext.Sound.armed {b : HttpContext} (h : b.Sound) : ∃ mod o, b.Armed mod o := by
  obtain ⟨mod, hm⟩ := Option.isSome_iff_exists.mp h.mod
  obtain ⟨o, ho⟩ := Option.isSome_iff_exists.mp h.httpObj
  exact ⟨mod, o, hm, ho, by simp [JsVal.isNullOrUndefined_of_isFunction h.httpCb]⟩

theorem HttpContext.Sound.kept {b b' : HttpContext} (h : b.Sound) (hk : b.Kept b') : b'.Sound where
  mod := hk.mod ▸ h.mod
  httpObj := hk.httpObj ▸ h.httpObj
  httpCb := hk.httpCb ▸ h.httpCb
  inBounds := hk.inBounds h.inBounds

theorem freshContext_sound (mod : ModId) (o : ObjId) {cb : JsVal} (hcb : cb.isFunction) (d : JsVal) :
    (freshContext mod o cb d).Sound := by
  refine ⟨rfl, rfl, hcb, ?_⟩
  show 0 ≤ (0 : Int32).toInt ∧ (0 : Int32).toInt ≤ HTTP_BUFFER_LEN
  decide

def World.Sound (w : World) : Prop := ∀ a b, w.https a = some b → b.Sound

theorem native_sound {w u : World} (h : w.Sound) (he : NativeEffect w u) : u.Sound := by
  cases he with
  | request mod o cb d req strs hcb hreq hstrs =>
    intro a b hb
    rcases update_some hb with ⟨-, hb⟩ | ⟨-, hb⟩
    · cases hb
      exact freshContext_sound mod o hcb d
    · exact h a b hb
  | js | leak | message | socket | write | close => exact h

theorem host_sound {w u : World} (h : w.Sound) (he : HostEffect w u) : u.Sound := by
  cases he with
  | load he =>
    cases he with
    | native he => exact native_sound h he
    | templates | globals => exact h
  | invoke i => exact h
  | store a b b' hb hk =>
    intro x c hc
    rcases update_some hc with ⟨-, hc⟩ | ⟨-, hc⟩
    · cases hc
      exact (h a b hb).kept hk
    · exact h x c hc
  | destroy a b hb =>
    intro x c hc
    rcases update_some hc with ⟨-, hc⟩ | ⟨-, hc⟩
    · cases hc
    · exact h x c hc

/-! ## Systems -/

structure System.Sound (s : System) : Prop extends s.Usable where
  templates : ∀ m p, s.processor m = some p → s.world.statics.messageTemplate.isSome
  requests : s.world.Sound
  /-- A context lies among the addresses that were allocated. -/
  addresses : ∀ a b, s.world.https a = some b → a < s.world.nextAddr

theorem start_usable : System.start.Usable where
  configs := fun _ _ h => by cases h
  processors := fun _ _ h => by cases h

theorem run_sound (hP : P.Sandboxed) {es : List Event} {s : System} (h : run (step P) .start es = .ok s) : s.Sound where
  toUsable := run_inv (fun _ _ _ hs ht => step_usable hs ht) start_usable h
  templates := fun m p hp => by
    obtain ⟨m₀, -, hst⟩ := (run_shared hP h).first hp
    rw [hst]
    rfl
  requests := run_invariant hP (I := World.Sound) (fun _ _ h => by cases h) (fun _ _ => host_sound) h
  addresses := fun a b hb => by
    obtain ⟨l, -, hl⟩ := run_books hP h
    exact hl.below a (hl.live_open hb).1

/-- A close does nothing, or it delivers. -/
theorem System.Sound.close_cases (hP : P.Sandboxed) {s t : System} (hs : s.Sound) {a : Addr} {result : Int64}
    {fs : ScriptFile} (h : jsMesiboHttpOnclose P a result fs s = .ok t) : (result = P.MESIBO_RESULT_FAIL ∧ t = s) ∨
      ∃ b mod o mp st mp' w u, result ≠ P.MESIBO_RESULT_FAIL ∧ s.world.https a = some b ∧ b.Armed mod o ∧
        s.processor mod = some mp ∧ getContext P mp fs s.world = .ok (st, mp', w) ∧ Delivered P a b o w u ∧
        t = s.lock.putProcessor mod mp' u := by
  by_cases hr : result = P.MESIBO_RESULT_FAIL
  · subst hr
    rw [onclose_fail] at h
    cases h
    exact .inl ⟨rfl, rfl⟩
  cases hb : s.world.https a with
  | none => rw [onclose_gone hr hb] at h; cases h
  | some b =>
    obtain ⟨mod, o, harm⟩ := (hs.requests a b hb).armed
    have hready := h
    simp only [jsMesiboHttpOnclose, if_neg (Ne.symm hr), hb, harm.mod] at hready
    cases hvc : s.configs mod with
    | none => rw [hvc] at hready; cases hready
    | some vc =>
      obtain ⟨mp, hctx⟩ := Option.isSome_iff_exists.mp (hs.configs mod vc hvc)
      have hmp : s.processor mod = some mp := by rw [System.processor, hvc]; exact hctx
      simp only [hvc, hctx] at hready
      cases hg : getContext P mp fs s.world with
      | error f => rw [hg] at hready; cases hready
      | ok r =>
        obtain ⟨st, mp', w⟩ := r
        obtain ⟨n, hc⟩ := (getContext_usable (hs.processors mod mp hmp) hg).context
        obtain ⟨u, hd, hu⟩ := onclose_delivers hP (hs.addresses a b hb) hb harm hr hmp hg (by rw [hc]; rfl)
        cases hu.symm.trans h
        exact .inr ⟨b, mod, o, mp, st, mp', w, u, hr, rfl, harm, hmp, hg, hd, rfl⟩

end MesiboV8
