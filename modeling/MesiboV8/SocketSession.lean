/-
  MesiboV8.SocketSession — what becomes of the `connect` of a socket and of the host's
  events on it.

  A session is a request to the host and the delivery of its events to the object's two
  functions. `JtoC_SocketParams` turns every receiver down, so there is none for an object
  that has both functions (`socket_session_iff`). Nor would its events be delivered: the
  context `connect` prepares has no module, and the host's callbacks on such a context
  leave everything as it is (`events_dropped`).
-/

import MesiboV8.Host
import Mathlib.Data.List.Forall2

namespace MesiboV8

open Lib.Bytes Lib.Utf Lib.Effects Lib.Runs Act

variable {P : Platform}

/-! ## Events -/

inductive SocketEvent where
  | onconnect (asock fd : Int64)
  | ondata (data : Mem) (len : Int64)

/-- A callback of the host, with what it finds of the script. -/
def socketEvent (P : Platform) (a : Addr) (s : System) : SocketEvent × ScriptFile → Except Fault System
  | (.onconnect asock fd, fs) => jsMesiboSocketOnconnect P a asock fd fs s
  | (.ondata data len, fs) => System.returned (jsMesiboSocketOndata P a data len fs s)

def SocketEvent.Regular : SocketEvent → Prop
  | .ondata _ len => 0 ≤ len.toInt
  | .onconnect _ _ => True

/-- On a context without a module nothing comes of any event. -/
theorem events_dropped {a : Addr} {s : System} {b : SocketContext} (hb : s.world.sockets a = some b) (hm : b.mod = none)
    (es : List (SocketEvent × ScriptFile)) : run (socketEvent P a) s es = .ok s := by
  induction es with
  | nil => rfl
  | cons e es ih =>
    refine run_cons_ok.mpr ⟨s, ?_, ih⟩
    obtain ⟨e, fs⟩ := e
    have hs : ∀ {α : Type} (deliver : Option CtxId → Act α), onSocket P a fs deliver s = .ok (none, s) := by
      intro α deliver
      simp only [onSocket, hb, hm]
    cases e with
    | onconnect asock fd => simp only [socketEvent, jsMesiboSocketOnconnect, hs]
    | ondata data len => simp only [socketEvent, jsMesiboSocketOndata, hs, System.returned]

/-! ## Sessions -/

/-- The two functions of a socket object. -/
structure SocketFunctions (o : ObjId) (w : World) (onconnect ondata : JsVal) : Prop where
  onconnect : w.get o SOCKET_ON_CONNECT = some onconnect ∧ onconnect.isFunction
  ondata : w.get o SOCKET_ON_DATA = some ondata ∧ ondata.isFunction

/-- The call of a function of the object that an event is to make. -/
def SocketEvent.Invokes (P : Platform) (onconnect ondata d : JsVal) (i : Invocation) : SocketEvent → Prop
  | .onconnect asock _ => i.fn = onconnect ∧ i.args = [d, .num (.int asock.toInt)]
  | .ondata data len => i.fn = ondata ∧ ∃ string, P.newFromUtf8 (data.read len.toInt.toNat) = some string ∧
      i.args = [d, .str string, .num (.int len.toInt)]

/-- The events on the context at `a` reach the functions, each once and in order. -/
def Delivers (P : Platform) (a : Addr) (mod : ModId) (onconnect ondata d : JsVal) (u : World) : Prop :=
  ∀ (s t : System) (es : List (SocketEvent × ScriptFile)), s.world = u → s.Ready mod → (∀ e ∈ es, e.1.Regular) →
    run (socketEvent P a) s es = .ok t →
    ∃ invs, t.world.invoked = u.invoked ++ invs ∧ List.Forall₂ (fun e i => e.1.Invokes P onconnect ondata d i) es invs

/-- The url of a request: nothing sets it, so it is never a string of the object's. -/
def SocketParams.url (_ : SocketParams) : Option CString := none

/-- The request is the one the object asks for. -/
structure SocketParams.Of (P : Platform) (o : ObjId) (w : World) (sock : SocketParams) : Prop where
  url : ∃ v, w.get o SOCKET_URL = some v ∧ sock.url = if v.isNullOrUndefined then none else (P.toUtf8 v w).map .ofBytes
  keepalive : ∃ v, w.get o SOCKET_KEEPALIVE = some v ∧ sock.keepalive = if v.isNullOrUndefined then 0 else jtoCInt v
  verifyHost : ∃ v, w.get o SOCKET_VERIFY_HOST = some v ∧ sock.verifyHost = if v.isNullOrUndefined then 0 else jtoCInt v

/-- An object with both functions asks the host for a connection once, and its events are
    delivered; one without them does not ask. -/
structure SocketSession (P : Platform) (info : CallInfo) (w : World) : Prop where
  session : ∀ onconnect ondata, SocketFunctions info.this w onconnect ondata →
    ∃ r u mod a d sock, socketConnectCallback P info w = .ok (r, u) ∧ info.mod = some mod ∧
      w.get info.this SOCKET_CBDATA = some d ∧ u.calls = w.calls ++ [.mesiboUtilSocketConnect sock a] ∧
      sock.Of P info.this w ∧ Delivers P a mod onconnect ondata d u
  refused : (¬∃ onconnect ondata, SocketFunctions info.this w onconnect ondata) →
    ∀ r u, socketConnectCallback P info w = .ok (r, u) → u.calls = w.calls

/-- `connect` never asks the host. -/
theorem connect_calls {info : CallInfo} {w u : World} {r : JsVal} (h : socketConnectCallback P info w = .ok (r, u)) :
    u.calls = w.calls := by
  rcases socketConnectCallback_cases h with ⟨-, rfl | ⟨d, -, rfl⟩⟩
  · rfl
  · rfl

/-- Exactly the objects that lack one of the functions get what they should. -/
theorem socket_session_iff (info : CallInfo) (w : World) :
    SocketSession P info w ↔ ¬∃ onconnect ondata, SocketFunctions info.this w onconnect ondata := by
  constructor
  · intro h hf
    obtain ⟨onconnect, ondata, hf⟩ := hf
    obtain ⟨r, u, mod, a, d, sock, hc, -, -, hcalls, -⟩ := h.session onconnect ondata hf
    rw [connect_calls hc] at hcalls
    simp at hcalls
  · intro h
    exact ⟨fun onconnect ondata hf => absurd ⟨onconnect, ondata, hf⟩ h, fun _ r u hc => connect_calls hc⟩

/-- An object with every function, and a number in every other property. -/
def World.plugged : World :=
  { World.empty with heap := fun _ k => .data (if k = SOCKET_ON_CONNECT ∨ k = SOCKET_ON_DATA then .func 1 else .num (.int 1)) }

theorem session_never_opened : ¬∀ info w, info.isConstructCall = false → info.mod.isSome →
    SocketSession .reference info w := by
  intro h
  obtain ⟨r, u, mod, a, d, sock, hc, -, -, hcalls, -⟩ :=
    (h ⟨0, .external (some 0), [], false, 0⟩ .plugged rfl rfl).session (.func 1) (.func 1) ⟨⟨rfl, rfl⟩, rfl, rfl⟩
  rw [connect_calls hc] at hcalls
  simp at hcalls

end MesiboV8
