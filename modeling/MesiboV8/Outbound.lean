/-
  MesiboV8.Outbound — what the host is asked for, and what it cannot be.

  Whatever scripts do, every call the module makes of the host is well formed
  (`run_wellFormed`): a message has an `aid` and an `id`, and its length is that of its text;
  a request has its `url` and `post` and the module's own callbacks; numbers have the width
  the scripts see; no connection is ever asked for. The contexts that `connect` leaves behind
  have no module, so a host that calls back about them calls in vain (`run_inputs_iff`).
-/

import MesiboV8.Soundness
import MesiboV8.SocketSession

namespace MesiboV8

open Lib.Bytes Lib.Utf Lib.Effects Lib.Runs Act

variable {P : Platform}

/-! ## Calls of the host -/

def World.WellAsked (w : World) : Prop := ∀ c ∈ w.calls, c.WellFormed

theorem World.WellAsked.add {w : World} (h : w.WellAsked) {c : HostCall} (hc : c.WellFormed) :
    ∀ x ∈ w.calls ++ [c], x.WellFormed := by
  intro x hx
  rcases List.mem_append.mp hx with hx | hx
  · exact h x hx
  · rw [List.mem_singleton.mp hx]
    exact hc

theorem native_wellAsked {w u : World} (h : w.WellAsked) (he : NativeEffect w u) : u.WellAsked := by
  cases he with
  | js | leak | socket => exact h
  | message _ _ _ _ hc => exact h.add hc
  | request _ _ _ _ _ _ _ hc => exact h.add hc
  | write _ _ _ hc => exact h.add hc
  | close _ hc => exact h.add hc

theorem host_wellAsked {w u : World} (h : w.WellAsked) (he : HostEffect w u) : u.WellAsked := by
  cases he with
  | load he =>
    cases he with
    | native he => exact native_wellAsked h he
    | templates | globals => exact h
  | invoke | store | destroy => exact h

/-- In every run, every call of the host is well formed. -/
theorem run_wellFormed (hP : P.Sandboxed) {es : List Event} {s : System} (h : run (step P) .start es = .ok s) :
    ∀ c ∈ s.world.calls, c.WellFormed :=
  run_invariant hP (I := World.WellAsked) (fun _ hc => by cases hc) (fun _ _ => host_wellAsked) h

/-- A run whose script sends a message when it is loaded, and when it gets one. -/
def sendingRun : List Event := [.moduleInit 0 (some ⟨some "a.js", some "0"⟩) ⟨some 1, true, some []⟩,
  .message 0 ⟨1, 2, 0, 0, 0, 0, 3600, 0, none, none⟩ (.ofBytes []) 0 ⟨some 1, true, some []⟩]

theorem run_wellFormed_sending : ∃ s, run (step (.calling .messageCallback)) .start sendingRun = .ok s ∧
    s.world.calls.length = 2 ∧ ∀ c ∈ s.world.calls, c.WellFormed := by
  obtain ⟨s, h, hl⟩ : ∃ s, run (step (.calling .messageCallback)) .start sendingRun = .ok s ∧ s.world.calls.length = 2 :=
    ⟨_, rfl, rfl⟩
  exact ⟨s, h, hl, run_wellFormed (Platform.calling_sandboxed _) h⟩

/-! ## Callbacks on sockets -/

/-- All that the host can do. -/
inductive Input where
  | event (e : Event)
  | socket (cbdata : Addr) (e : SocketEvent) (fs : ScriptFile)

def Input.event? : Input → Option Event
  | .event e => some e
  | .socket .. => none

def inputStep (P : Platform) (s : System) : Input → Except Fault System
  | .event e => step P s e
  | .socket a e fs => socketEvent P a s (e, fs)

/-- The contexts of sockets have no module. -/
def World.Unplugged (w : World) : Prop := ∀ a b, w.sockets a = some b → b.mod = none

theorem host_unplugged {w u : World} (h : w.Unplugged) (he : HostEffect w u) : u.Unplugged := by
  cases he with
  | load he =>
    cases he with
    | native he =>
      cases he with
      | socket d =>
        intro a b hb
        rcases update_some hb with ⟨-, hb⟩ | ⟨-, hb⟩
        · cases hb
          rfl
        · exact h a b hb
      | js | leak | message | request | write | close => exact h
    | templates | globals => exact h
  | invoke | store | destroy => exact h

theorem run_unplugged (hP : P.Sandboxed) {s : System} (h : Reached (step P) .start s) : s.world.Unplugged := by
  obtain ⟨es, h⟩ := h
  exact run_invariant hP (fun _ _ hb => by cases hb) (fun _ _ => host_unplugged) h

theorem socketEvent_gone {a : Addr} {s : System} (h : s.world.sockets a = none) (e : SocketEvent) (fs : ScriptFile) :
    socketEvent P a s (e, fs) = .error .useAfterFree := by
  have hs : ∀ {α : Type} (deliver : Option CtxId → Act α), onSocket P a fs deliver s = .error .useAfterFree := by
    intro α deliver
    simp only [onSocket, h]
  cases e with
  | onconnect asock fd => simp only [socketEvent, jsMesiboSocketOnconnect, hs]
  | ondata data len => simp only [socketEvent, jsMesiboSocketOndata, hs, System.returned]

/-- A callback on the context of a socket does nothing. -/
theorem socketEvent_iff {a : Addr} {s t : System} (hs : s.world.Unplugged) (e : SocketEvent) (fs : ScriptFile) :
    socketEvent P a s (e, fs) = .ok t ↔ t = s ∧ (s.world.sockets a).isSome := by
  cases hb : s.world.sockets a with
  | none => simp [socketEvent_gone hb]
  | some b =>
    obtain ⟨u, hu, hnil⟩ := run_cons_ok.mp (events_dropped (P := P) hb (hs a b hb) [(e, fs)])
    cases hnil
    rw [hu]
    simp [eq_comm]

/-- The callback finds a context. -/
def Input.Lands (s : System) : Input → Prop
  | .event _ => True
  | .socket a .. => (s.world.sockets a).isSome

/-- The runs of a host that also calls back on sockets are those it makes without, with
    callbacks on contexts that are there in between. -/
theorem run_inputs_iff (hP : P.Sandboxed) {is : List Input} {t : System} : run (inputStep P) .start is = .ok t ↔
    run (step P) .start (is.filterMap (·.event?)) = .ok t ∧
    ∀ before a e fs after s, is = before ++ .socket a e fs :: after →
      run (step P) .start (before.filterMap (·.event?)) = .ok s → (s.world.sockets a).isSome := by
  have hevent : ∀ s i e, i.event? = some e → inputStep P s i = step P s e := by
    intro s i e he
    cases i <;> cases he
    rfl
  have hrest : ∀ s i u, Reached (step P) .start s → i.event? = none → (inputStep P s i = .ok u ↔ u = s ∧ i.Lands s) := by
    intro s i u hs hi
    cases i with
    | event e => cases hi
    | socket a e fs => exact socketEvent_iff (run_unplugged hP hs) e fs
  rw [run_stutter_iff hevent hrest (.refl _)]
  refine and_congr_right fun _ => ⟨fun h before a e fs after s hi hs => h before _ after s hi rfl hs, ?_⟩
  intro h before i after s hi hn hs
  cases i with
  | event e => cases hn
  | socket a e fs => exact h before a e fs after s hi hs

/-- The script is loaded and connects; the host says so, and sends a message. -/
def connectedRun : List Input := [
  .event (.moduleInit 0 (some ⟨some "a.js", some "0"⟩) ⟨some 1, true, some []⟩),
  .socket 0 (.onconnect 5 5) ⟨some 1, true, some []⟩,
  .event (.message 0 ⟨1, 2, 0, 0, 0, 0, 3600, 0, none, none⟩ (.ofBytes []) 0 ⟨some 1, true, some []⟩)]

theorem run_inputs_connected : ∃ t, run (inputStep (.calling .socketConnectCallback)) .start connectedRun = .ok t ∧
    (t.world.sockets 1).isSome := by
  obtain ⟨t, h, ht⟩ : ∃ t, run (step (.calling .socketConnectCallback)) .start (connectedRun.filterMap (·.event?)) =
      .ok t ∧ (t.world.sockets 1).isSome := ⟨_, rfl, rfl⟩
  refine ⟨t, (run_inputs_iff (Platform.calling_sandboxed _)).mpr ⟨h, fun before a e fs after s hi hs => ?_⟩, ht⟩
  -- the context is the one the script made when it was loaded
  rcases before with _ | ⟨i, _ | ⟨j, _ | ⟨k, before⟩⟩⟩
  · cases hi
  · cases hi
    cases hs
    rfl
  · cases hi
  · cases before <;> cases hi

end MesiboV8
