/-
  MesiboV8.Host — the module as a machine whose steps are the host's calls.

  `step_frame` is the frame of one of them: what a `HostFrame` and the change of the one
  request the call is about keep, the step keeps. `step_ready`: a module that has a
  processor with a context keeps one.
-/

import MesiboV8.Frames
import MesiboV8.Reload
import MesiboV8.Lib.Runs

namespace MesiboV8

open Lib.Bytes Lib.Utf Lib.Effects Lib.Runs Act

variable {P : Platform} {R : World → World → Prop}

/-! ## The machine -/

inductive Event where
  | moduleInit (m : ModId) (config : Option ModuleConfig) (fs : ScriptFile)
  | message (mod : ModId) (p : MessageParams) (message : CString) (len : UInt64) (fs : ScriptFile)
  | messageStatus (mod : ModId) (p : MessageParams) (status : UInt64) (fs : ScriptFile)
  | httpData (cbdata : Addr) (state progress : Int64) (buffer : Option Mem) (size : Int64)
  | httpStatus (cbdata : Addr) (status : Int64) (responseType : Option CString)
  | httpClose (cbdata : Addr) (result : Int64) (fs : ScriptFile)

/-- The request a call is about. -/
def Event.request? : Event → Option Addr
  | .httpData a .. | .httpStatus a .. | .httpClose a .. => some a
  | _ => none

/-- Code that only works on the world. -/
def System.exec {α : Type} (s : System) (x : Act α) : Except Fault System :=
  match x s.world with
  | .ok (_, w) => .ok { s with world := w }
  | .error f => .error f

def System.returned {α : Type} : Except Fault (α × System) → Except Fault System
  | .ok (_, s) => .ok s
  | .error f => .error f

/-- One call of the host; what it returns is dropped. -/
def step (P : Platform) (s : System) : Event → Except Fault System
  | .moduleInit m config fs => System.returned (mesiboModuleV8Init P m config fs s)
  | .message mod p message len fs => System.returned (v8OnMessage P mod p message len fs s)
  | .messageStatus mod p status fs => System.returned (v8OnMessageStatus P mod p status fs s)
  | .httpData a state progress buffer size => s.exec (jsMesiboHttpOndata P a state progress buffer size)
  | .httpStatus a status responseType => s.exec (jsMesiboHttpOnstatus P a status responseType)
  | .httpClose a result fs => jsMesiboHttpOnclose P a result fs s

theorem exec_ok {α : Type} {s t : System} {x : Act α} :
    s.exec x = .ok t ↔ ∃ a w, x s.world = .ok (a, w) ∧ t = { s with world := w } := by
  unfold System.exec
  cases x s.world with
  | ok r =>
    constructor
    · intro h
      cases h
      exact ⟨r.1, r.2, rfl, rfl⟩
    · intro hx
      obtain ⟨a, w, ⟨⟩, rfl⟩ := hx
      rfl
  | error f => simp

theorem returned_ok {α : Type} {x : Except Fault (α × System)} {t : System} :
    System.returned x = .ok t ↔ ∃ a, x = .ok (a, t) := by
  cases x with
  | ok r => simp [System.returned, Prod.ext_iff]
  | error f => simp [System.returned]

/-! ## Frames -/

namespace HostFrame

variable (h : HostFrame P R)

include h

theorem initialisation {m : ModId} {config : Option ModuleConfig} {fs : ScriptFile} {s t : System} {rv : Int64}
    (hx : mesiboModuleV8Init P m config fs s = .ok (rv, t)) : R s.world t.world := by
  rcases initialisation_cases hx with ⟨-, rfl⟩ | ⟨script, log, rv', p, w, -, -, hi, rfl⟩
  · exact h.refl _
  · have hw := h.trans (h.live (.str :: s.world.live) s.world) (h.loads hi)
    split <;> exact hw

theorem v8OnMessage {mod : ModId} {p : MessageParams} {message : CString} {len : UInt64} {fs : ScriptFile}
    {s t : System} {rv : Int64} (hx : v8OnMessage P mod p message len fs s = .ok (rv, t)) : R s.world t.world := by
  obtain ⟨mp, mp', w, -, hm, rfl⟩ := v8OnMessage_cases hx
  exact h.trans (h.live _ _) (h.onMessage hm)

theorem v8OnMessageStatus {mod : ModId} {p : MessageParams} {status : UInt64} {fs : ScriptFile}
    {s t : System} {rv : Int64} (hx : v8OnMessageStatus P mod p status fs s = .ok (rv, t)) : R s.world t.world := by
  obtain ⟨mp, mp', w, -, hm, rfl⟩ := v8OnMessageStatus_cases hx
  exact h.trans (h.live _ _) (h.onMessageStatus hm)

theorem derefContext (a : Addr) : Keeps R (derefContext a) := fun w b u hx => by
  rw [MesiboV8.derefContext, get_bind] at hx
  cases hb : w.https a with
  | none => rw [hb] at hx; cases hx
  | some c => rw [hb] at hx; cases hx; exact h.refl w

section Request

variable {a : Addr} (ha : ∀ c d w, R w { w with https := Function.update w.https a c, destroyed := d })

include ha

theorem destroy : Keeps R (mesiboJsDestroyHttpContext a) := by
  have : IsTrans World R := ⟨fun _ _ _ => h.trans⟩
  exact .bind (h.derefContext a) fun _ => .modify fun w => ha none (w.destroyed ++ [a]) w

theorem jsMesiboHttpOndata (state progress : Int64) (buffer : Option Mem) (size : Int64) :
    Keeps R (jsMesiboHttpOndata P a state progress buffer size) := by
  have : Std.Refl R := ⟨h.refl⟩
  have : IsTrans World R := ⟨fun _ _ _ => h.trans⟩
  refine .bind (h.derefContext a) fun b => ?_
  split
  · exact .bind (h.destroy ha) fun _ => .pure _
  · split
    · exact .pure _
    · cases storeBody b buffer size with
      | error f => exact fun _ _ _ hx => nomatch hx
      | ok b' =>
        cases b' with
        | none => exact .pure _
        | some b' => exact .bind (.modify fun w => ha (some b') w.destroyed w) fun _ => .pure _

theorem jsMesiboHttpOnstatus (status : Int64) (responseType : Option CString) :
    Keeps R (jsMesiboHttpOnstatus P a status responseType) := by
  have : Std.Refl R := ⟨h.refl⟩
  have : IsTrans World R := ⟨fun _ _ _ => h.trans⟩
  cases responseType with
  | none => exact .pure _
  | some t =>
    refine .bind (h.derefContext a) fun b => ?_
    cases b.mod with
    | none => exact .pure _
    | some mod =>
      dsimp only
      cases storeStatus b status t with
      | error f => exact fun _ _ _ hx => nomatch hx
      | ok b' => exact .bind (.modify fun w => ha (some b') w.destroyed w) fun _ => .pure _

theorem deliverResponse (context : Option CtxId) : Keeps R (deliverResponse P context a) := by
  have : IsTrans World R := ⟨fun _ _ _ => h.trans⟩
  refine .bind (h.derefContext a) fun b => ?_
  cases b.httpObj with
  | none => exact h.destroy ha
  | some o =>
    dsimp only
    split
    · exact h.destroy ha
    · cases context with
      | none => exact fun _ _ _ hx => nomatch hx
      | some c =>
        exact .bind (hostString_keeps (h.hostStores o _) _) fun _ => .bind (hostString_keeps (h.hostStores o _) _) fun _ =>
          .bind (hostUint_keeps (h.hostStores o _) _) fun _ =>
          .bind (.modify fun _ => h.executeJsFunctionObj rfl) fun _ => h.destroy ha

theorem jsMesiboHttpOnclose {result : Int64} {fs : ScriptFile} {s t : System}
    (hx : jsMesiboHttpOnclose P a result fs s = .ok t) : R s.world t.world := by
  rcases onclose_cases hx with rfl | ⟨mod, mp, st, mp', u, w, -, hg, hd, rfl⟩
  · exact h.refl _
  · exact h.trans (h.getContext hg) (h.deliverResponse ha _ _ _ _ hd)

end Request

theorem step_frame {e : Event}
    (ha : ∀ a, e.request? = some a → ∀ c d w, R w { w with https := Function.update w.https a c, destroyed := d })
    {s t : System} (hx : step P s e = .ok t) : R s.world t.world := by
  cases e with
  | moduleInit m config fs =>
    obtain ⟨rv, hx⟩ := returned_ok.mp hx
    exact h.initialisation hx
  | message mod p message len fs =>
    obtain ⟨rv, hx⟩ := returned_ok.mp hx
    exact h.v8OnMessage hx
  | messageStatus mod p status fs =>
    obtain ⟨rv, hx⟩ := returned_ok.mp hx
    exact h.v8OnMessageStatus hx
  | httpData a state progress buffer size =>
    obtain ⟨rv, w, hw, rfl⟩ := exec_ok.mp hx
    exact h.jsMesiboHttpOndata (ha a rfl) state progress buffer size _ _ _ hw
  | httpStatus a status responseType =>
    obtain ⟨rv, w, hw, rfl⟩ := exec_ok.mp hx
    exact h.jsMesiboHttpOnstatus (ha a rfl) status responseType _ _ _ hw
  | httpClose a result fs => exact h.jsMesiboHttpOnclose (ha a rfl) hx

end HostFrame

/-! ## Processors -/

theorem processor_put (s : System) (m : ModId) (p : Processor) (w : World) :
    (s.putProcessor m p w).processor = Function.update s.processor m (some p) := by
  funext mod
  unfold System.processor System.putProcessor
  by_cases e : mod = m
  · subst e; simp
  · simp [e]

/-- What becomes of the processors: at most one changes, by a `GetContext` or a successful initialisation. -/
theorem step_processors {e : Event} {s t : System} (h : step P s e = .ok t) :
    t.processor = s.processor ∨
    (∃ m p p' st fs u v, s.processor m = some p ∧ getContext P p fs u = .ok (st, p', v) ∧
      t.processor = Function.update s.processor m (some p')) ∨
    ∃ m script log fs p rv u v, e = .moduleInit m (some ⟨some script, some log⟩) fs ∧
      processorInitialize P (.new m (some script) s.nextIsolate) fs u = .ok (rv, p, v) ∧
      rv ≠ P.MESIBO_RESULT_FAIL ∧ t.processor = Function.update s.processor m (some p) := by
  cases e with
  | moduleInit m config fs =>
    obtain ⟨rv, h⟩ := returned_ok.mp h
    rcases initialisation_cases h with ⟨-, rfl⟩ | ⟨script, log, rv', p, w, rfl, -, hi, rfl⟩
    · exact .inl rfl
    · split
      · exact .inl rfl
      · rename_i hf
        exact .inr (.inr ⟨m, script, log, fs, p, rv', _, _, rfl, hi, hf, processor_put _ _ _ _⟩)
  | message m p message len fs =>
    obtain ⟨rv, h⟩ := returned_ok.mp h
    obtain ⟨mp, mp', w, hm, ho, rfl⟩ := v8OnMessage_cases h
    obtain ⟨st, u, -, -, -, -, hg, -⟩ := onMessage_cases ho
    exact .inr (.inl ⟨m, mp, mp', st, fs, _, u, hm, hg, processor_put _ _ _ _⟩)
  | messageStatus m p status fs =>
    obtain ⟨rv, h⟩ := returned_ok.mp h
    obtain ⟨mp, mp', w, hm, ho, rfl⟩ := v8OnMessageStatus_cases h
    obtain ⟨st, u, -, -, -, -, hg, -⟩ := onMessageStatus_cases ho
    exact .inr (.inl ⟨m, mp, mp', st, fs, _, u, hm, hg, processor_put _ _ _ _⟩)
  | httpData a state progress buffer size =>
    obtain ⟨rv, w, -, rfl⟩ := exec_ok.mp h
    exact .inl rfl
  | httpStatus a status responseType =>
    obtain ⟨rv, w, -, rfl⟩ := exec_ok.mp h
    exact .inl rfl
  | httpClose a result fs =>
    rcases onclose_cases h with rfl | ⟨m, mp, st, mp', u, w, hm, hg, -, rfl⟩
    · exact .inl rfl
    · exact .inr (.inl ⟨m, mp, mp', st, fs, _, u, hm, hg, processor_put _ _ _ _⟩)

/-- The module has a processor, and that a context. -/
def System.Ready (mod : ModId) (s : System) : Prop := ∃ p, s.processor mod = some p ∧ p.context_.isSome

theorem getContext_ready {p p' : Processor} {fs : ScriptFile} {w w' : World} {st : Option Int64}
    (hp : p.context_.isSome) (h : getContext P p fs w = .ok (st, p', w')) : p'.context_.isSome := by
  rcases getContext_cases h with ⟨-, -, rfl, -⟩ | ⟨rv, -, -, hi⟩
  · exact hp
  · rcases initialize_cases hi with ⟨-, -, rfl⟩ | ⟨-, -, -, source, -, hb⟩
    · exact hp
    · exact hb.context_isSome

end MesiboV8
