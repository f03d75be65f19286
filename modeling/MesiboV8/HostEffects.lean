/-
  MesiboV8.HostEffects — everything a call of the host can bring about, effect by effect.

  Loading a script brings about what scripts do, and makes templates and global objects
  (`LoadEffect`); a call of the host copies strings first (`Event.copies`), and then does
  that, enters JS functions, and stores in the context it is about or frees it
  (`HostEffect`). `step_effects` says that there is nothing else, so an invariant of the C++
  side is proved once for each effect and then holds in every state that can be reached
  (`run_invariant`).
-/

import MesiboV8.HttpClose
import MesiboV8.HttpRecord
import MesiboV8.Natives
import MesiboV8.Templates

namespace MesiboV8

open Lib.Bytes Lib.Utf Lib.Effects Lib.Runs Act Relation

variable {P : Platform}

/-! ## Loading -/

inductive LoadEffect : World → World → Prop
  | native {w u : World} (h : NativeEffect w u) : LoadEffect w u
  | templates (w : World) (p : Processor) : LoadEffect w { w with statics := setCallables p w.statics }
  | globals (w : World) (g : CtxId → Option ObjId) (l : List ObjId) :
      LoadEffect w { w with globals := g, globalObjects := l }

abbrev LoadEffects : World → World → Prop := ReflTransGen LoadEffect

theorem NativeEffects.load {w u : World} (h : NativeEffects w u) : LoadEffects w u :=
  ReflTransGen.mono (fun _ _ => .native) _ _ h

theorem loadEffects_frame (hP : P.Sandboxed) : LoadFrame P LoadEffects where
  refl := fun _ => .refl
  trans := ReflTransGen.trans
  statics := fun p w => .single (.templates w p)
  newInstance := fun _ w => .single (.native (.js w _ _ _ w.pending))
  globals := fun g l w => .single (.globals w g l)
  run := fun context script w => (scriptRun_effects (hP.run context script w)).load

theorem getContext_effects (hP : P.Sandboxed) {p p' : Processor} {fs : ScriptFile} {w w' : World} {st : Option Int64}
    (h : getContext P p fs w = .ok (st, p', w')) : LoadEffects w w' := (loadEffects_frame hP).getContext h

theorem ctoJMessageParams_effects {isolate : IsolateId} {p : MessageParams} {w u : World} {o : ObjId}
    (h : ctoJMessageParams P isolate p w = .ok (o, u)) : NativeEffects w u := by
  obtain ⟨t, -, -, -, hu⟩ := ctoJMessageParams_keeps (R := NativeEffects) h fun k _ => setParam_effects w.nextObj k
  exact .head (.js w _ _ _ w.pending) hu

/-! ## Calls of the host -/

inductive HostEffect : World → World → Prop
  | load {w u : World} (h : LoadEffect w u) : HostEffect w u
  | invoke (w : World) (i : Invocation) : HostEffect w { w with invoked := w.invoked ++ [i] }
  | store (w : World) (a : Addr) (b b' : HttpContext) (hb : w.https a = some b) (h : b.Kept b') :
      HostEffect w { w with https := Function.update w.https a (some b') }
  | destroy (w : World) (a : Addr) (b : HttpContext) (hb : w.https a = some b) :
      HostEffect w { w with https := Function.update w.https a none, destroyed := w.destroyed ++ [a] }

abbrev HostEffects : World → World → Prop := ReflTransGen HostEffect

theorem LoadEffects.host {w u : World} (h : LoadEffects w u) : HostEffects w u :=
  ReflTransGen.mono (fun _ _ => .load) _ _ h

theorem NativeEffects.host {w u : World} (h : NativeEffects w u) : HostEffects w u := h.load.host

/-- A call of a JS function, and what the script then does. -/
theorem executeJsFunctionObj_effects (hP : P.Sandboxed) (context : CtxId) (jsFun : JsVal) (args : List JsVal) (w : World) :
    NativeEffects { w with invoked := w.invoked ++ [⟨jsFun, args, w.heap⟩] }
      (executeJsFunctionObj P context jsFun args w).2 := by
  rw [executeJsFunctionObj_world]
  exact scriptRun_effects (hP.call _ _ _ _)

theorem execute_effects (hP : P.Sandboxed) {context : CtxId} {jsFun : JsVal} {args : List JsVal} {w u : World} {rv : Int64}
    (h : executeJsFunctionObj P context jsFun args w = (rv, u)) : HostEffects w u := by
  have hu := executeJsFunctionObj_effects hP context jsFun args w
  rw [h] at hu
  exact .head (.invoke w _) hu.host

/-- A listener's context and its argument. -/
theorem arguments_effects (hP : P.Sandboxed) {p p' : Processor} {fs : ScriptFile} {params : MessageParams}
    {w u v : World} {st : Option Int64} {isolate : IsolateId} {o : ObjId} (hg : getContext P p fs w = .ok (st, p', u))
    (ho : ctoJMessageParams P isolate params u = .ok (o, v)) : HostEffects w v :=
  LoadEffects.host ((getContext_effects hP hg).trans (ctoJMessageParams_effects ho).load)

theorem onMessage_effects (hP : P.Sandboxed) {p p' : Processor} {fs : ScriptFile} {params : MessageParams}
    {message : CString} {len : UInt64} {w u : World} {rv : Int64}
    (h : onMessage P p fs params message len w = .ok (rv, p', u)) : HostEffects w u := by
  obtain ⟨st, x, context, o, v, jsFun, hg, -, ho, -, hu⟩ := onMessage_cases h
  have hv := arguments_effects hP hg ho
  rcases hu with ⟨-, rfl⟩ | hu
  · exact hv
  · exact hv.trans (execute_effects hP hu)

theorem onMessageStatus_effects (hP : P.Sandboxed) {p p' : Processor} {fs : ScriptFile} {params : MessageParams}
    {status : UInt64} {w u : World} {rv : Int64} (h : onMessageStatus P p fs params status w = .ok (rv, p', u)) :
    HostEffects w u := by
  obtain ⟨st, x, context, o, v, jsFun, hg, -, ho, hu⟩ := onMessageStatus_cases h
  have hv := arguments_effects hP hg ho
  rcases hu with rfl | hu
  · exact hv
  · exact hv.trans (execute_effects hP hu)

theorem destroy_effects (a : Addr) : Keeps HostEffects (mesiboJsDestroyHttpContext a) := by
  intro w r u h
  obtain ⟨b, v, hb, -⟩ := bind_ok.mp h
  obtain ⟨hb, -⟩ := derefContext_ok hb
  rw [mesiboJsDestroyHttpContext_eq hb] at h
  cases h
  exact .single (.destroy w a b hb)

theorem ondata_effects (a : Addr) (state progress : Int64) (buffer : Option Mem) (size : Int64) :
    Keeps HostEffects (jsMesiboHttpOndata P a state progress buffer size) := by
  intro w r u h
  obtain ⟨b, hb, rfl⟩ := ondata_cases h
  split
  · exact .single (.destroy w a b hb)
  · exact .single (.store w a b _ hb (afterData_kept b state buffer size))

theorem onstatus_effects (a : Addr) (status : Int64) (responseType : Option CString) :
    Keeps HostEffects (jsMesiboHttpOnstatus P a status responseType) := by
  intro w r u h
  rcases onstatus_cases h with ⟨rfl, -⟩ | ⟨b, hb, rfl⟩
  · exact .refl
  · exact .single (.store w a b _ hb (afterStatus_kept b status responseType))

theorem stores_effects (o : ObjId) (k : String) (v : JsVal) (w : World) : HostEffects w (w.set o k v).2 :=
  NativeEffects.host (.single (.js w _ w.origin w.nextObj w.pending))

theorem deliverResponse_effects (hP : P.Sandboxed) (context : Option CtxId) (a : Addr) :
    Keeps HostEffects (deliverResponse P context a) := by
  refine .bind (fun w b u h => ?_) fun b => ?_
  · rw [(derefContext_ok h).2]
  · cases b.httpObj with
    | none => exact destroy_effects a
    | some o =>
      dsimp only
      split
      · exact destroy_effects a
      · cases context with
        | none => exact fun _ _ _ h => nomatch h
        | some c =>
          refine .bind (hostString_keeps (stores_effects o _) _) fun _ => ?_
          refine .bind (hostString_keeps (stores_effects o _) _) fun _ => ?_
          refine .bind (hostUint_keeps (stores_effects o _) _) fun _ => ?_
          exact .bind (.modify fun w => execute_effects hP rfl) fun _ => destroy_effects a

/-- The strings a call copies before it does anything else. None of the copies is freed. -/
def Event.copies : Event → List Block
  | .moduleInit _ (some ⟨some _, some _⟩) _ => [.str]
  | .message _ p _ _ _ | .messageStatus _ p _ _ => (p.to_.toList ++ p.from_.toList).map fun _ => .str
  | _ => []

theorem Event.copies_str (e : Event) : ∀ b ∈ e.copies, b = .str := by
  unfold Event.copies
  split <;> simp +contextual

/-- From there on, a call of the host brings about nothing but these effects. -/
theorem step_copies (hP : P.Sandboxed) {e : Event} {s t : System} (h : step P s e = .ok t) :
    HostEffects { s.world with live := e.copies ++ s.world.live } t.world := by
  cases e with
  | moduleInit m config fs =>
    obtain ⟨rv, h⟩ := returned_ok.mp h
    rcases initialisation_cases h with ⟨rfl, rfl⟩ | ⟨script, log, rv', p, w, rfl, -, hi, rfl⟩
    · exact .refl
    · have hw := ((loadEffects_frame hP).loads hi).host
      split <;> exact hw
  | message mod p message len fs =>
    obtain ⟨rv, h⟩ := returned_ok.mp h
    obtain ⟨mp, mp', w, -, hm, rfl⟩ := v8OnMessage_cases h
    exact onMessage_effects hP hm
  | messageStatus mod p status fs =>
    obtain ⟨rv, h⟩ := returned_ok.mp h
    obtain ⟨mp, mp', w, -, hm, rfl⟩ := v8OnMessageStatus_cases h
    exact onMessageStatus_effects hP hm
  | httpData a state progress buffer size =>
    obtain ⟨rv, w, hw, rfl⟩ := exec_ok.mp h
    exact ondata_effects a state progress buffer size _ _ _ hw
  | httpStatus a status responseType =>
    obtain ⟨rv, w, hw, rfl⟩ := exec_ok.mp h
    exact onstatus_effects a status responseType _ _ _ hw
  | httpClose a result fs =>
    rcases onclose_cases h with rfl | ⟨mod, mp, st, mp', u, w, -, hg, hd, rfl⟩
    · exact .refl
    · exact (getContext_effects hP hg).host.trans (deliverResponse_effects hP _ _ _ _ _ hd)

theorem copies_effects (e : Event) (w : World) : NativeEffects w { w with live := e.copies ++ w.live } :=
  .leaks w fun b hb hn => nomatch hn.symm.trans (e.copies_str b hb)

theorem step_effects (hP : P.Sandboxed) {e : Event} {s t : System} (h : step P s e = .ok t) :
    HostEffects s.world t.world := (copies_effects e s.world).host.trans (step_copies hP h)

/-! ## Invariants -/

/-- What no effect breaks holds in every state reached. -/
theorem run_invariant (hP : P.Sandboxed) {I : World → Prop} (h0 : I .empty)
    (hI : ∀ w u, I w → HostEffect w u → I u) {es : List Event} {s : System} (h : run (step P) .start es = .ok s) :
    I s.world := by
  have keeps : ∀ {w u}, HostEffects w u → I w → I u := by
    intro w u hu hw
    induction hu with
    | refl => exact hw
    | tail _ he ih => exact hI _ _ ih he
  exact run_inv (fun _ _ _ hs ht => keeps (step_effects hP ht) hs) h0 h

end MesiboV8
