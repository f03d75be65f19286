/-
  MesiboV8.Scripts — what a script can do to the module.

  A script changes JS objects as it likes and calls the functions the module registered,
  on any receiver; it has no other way to the C++ side (`ScriptRun`, and the assumption
  `Sandboxed` that V8 runs scripts so). Calls a getter makes while a callable reads it
  are counted before that callable.

  What survives each registered function survives a script (`NativeFrame.scriptRun`). So does
  `Extends`, which is what follows for the C++ side: templates and logs stay, new contexts go
  to new addresses, and the contexts there are stay as they are (`scriptRun_extends`,
  `getContext_extends`).
-/

import MesiboV8.Frames
import MesiboV8.HttpSend

namespace MesiboV8

open Lib.Bytes Lib.Utf Lib.Effects Act

variable {P : Platform}

/-! ## Scripts -/

/-- A call of a registered function. -/
def callNative (P : Platform) : Native → CallInfo → Act JsVal
  | .logCallback => logCallback P
  | .messageClassCallback => messageClassCallback
  | .messageCallback => messageCallback P
  | .enableReadReceiptCallback => enableReadReceiptCallback P
  | .enableDeliveryReceiptCallback => enableDeliveryReceiptCallback P
  | .enablePresenceCallback => enablePresenceCallback P
  | .sendIfOnlineCallback => sendIfOnlineCallback P
  | .httpClassCallback => httpClassCallback
  | .httpCallback => httpCallback P
  | .socketClassCallback => socketClassCallback
  | .socketConnectCallback => socketConnectCallback P
  | .socketWriteCallback => socketWriteCallback P
  | .socketCloseCallback => socketCloseCallback

inductive ScriptRun (P : Platform) : World → World → Prop
  | done (w : World) : ScriptRun P w w
  | js {w u : World} (heap : ObjId → String → Slot) (nextObj : ObjId) (pending : Option JsVal) :
      ScriptRun P { w with heap := heap, nextObj := nextObj, pending := pending } u → ScriptRun P w u
  | native {w v u : World} {cb : Native} {info : CallInfo} {r : JsVal} :
      callNative P cb info w = .ok (r, v) → ScriptRun P v u → ScriptRun P w u

/-- V8 gives a script no other way to the module. -/
structure Platform.Sandboxed (P : Platform) : Prop where
  run : ∀ context script w, ScriptRun P w (P.run context script w).2
  call : ∀ context f args w, ScriptRun P w (P.call context f args w).2

theorem Platform.reference_sandboxed : Platform.reference.Sandboxed where
  run := fun _ _ w => .done w
  call := fun _ _ _ w => .done w

/-! ## The C++ side -/

/-- The templates that are there stay. -/
structure Statics.Le (s t : Statics) : Prop where
  message : ∀ x, s.messageTemplate = some x → t.messageTemplate = some x
  http : ∀ x, s.httpTemplate = some x → t.httpTemplate = some x
  socket : ∀ x, s.socketTemplate = some x → t.socketTemplate = some x

theorem Statics.Le.refl (s : Statics) : s.Le s := ⟨fun _ h => h, fun _ h => h, fun _ h => h⟩

theorem Statics.Le.trans {s t u : Statics} (h : s.Le t) (g : t.Le u) : s.Le u :=
  ⟨fun x hx => g.message x (h.message x hx), fun x hx => g.http x (h.http x hx),
    fun x hx => g.socket x (h.socket x hx)⟩

theorem setCallables_le (p : Processor) (s : Statics) : s.Le (setCallables p s) := by
  refine ⟨fun x hx => ?_, fun x hx => ?_, fun x hx => ?_⟩ <;> simp [setCallables, hx]

/-- `u` has what `w` has on the C++ side, and maybe more. -/
structure World.Extends (w u : World) : Prop where
  statics : w.statics.Le u.statics
  destroyed : u.destroyed = w.destroyed
  invoked : u.invoked = w.invoked
  nextAddr : w.nextAddr ≤ u.nextAddr
  https : ∀ a, a < w.nextAddr → u.https a = w.https a

namespace World.Extends

variable {w u v : World}

theorem refl (w : World) : w.Extends w := ⟨.refl _, rfl, rfl, Nat.le_refl _, fun _ _ => rfl⟩

theorem trans (h : w.Extends u) (g : u.Extends v) : w.Extends v where
  statics := h.statics.trans g.statics
  destroyed := g.destroyed.trans h.destroyed
  invoked := g.invoked.trans h.invoked
  nextAddr := h.nextAddr.trans g.nextAddr
  https := fun a ha => (g.https a (Nat.lt_of_lt_of_le ha h.nextAddr)).trans (h.https a ha)

instance : Std.Refl World.Extends := ⟨refl⟩
instance : IsTrans World World.Extends := ⟨fun _ _ _ => trans⟩

theorem of_js (w : World) (heap : ObjId → String → Slot) (origin : ObjId → Option IsolateId) (nextObj : ObjId)
    (live : List Block) (calls : List HostCall) (pending : Option JsVal) :
    w.Extends { w with
      heap := heap, origin := origin, nextObj := nextObj, live := live, calls := calls, pending := pending } :=
  ⟨.refl _, rfl, rfl, Nat.le_refl _, fun _ _ => rfl⟩

theorem addContext (w : World) (b : HttpContext) : w.Extends (w.addContext b) :=
  ⟨.refl _, rfl, rfl, Nat.le_succ _, fun _ ha => Function.update_of_ne (Nat.ne_of_lt ha) _ _⟩

end World.Extends

/-! ## Natives -/

/-- `R` survives what a registered function does: it works on JS objects and logs, and may
    leave a context of a request or of a socket behind. -/
structure NativeFrame (R : World → World → Prop) : Prop where
  js : ∀ w heap origin nextObj live calls pending, R w { w with
    heap := heap, origin := origin, nextObj := nextObj, live := live, calls := calls, pending := pending }
  request : ∀ w b, R w (w.addContext b)
  socket : ∀ w sc, R w (w.addSocket sc)

namespace NativeFrame

variable {α : Type} {R : World → World → Prop} [Std.Refl R] [IsTrans World R] (h : NativeFrame R)

include h

omit [Std.Refl R] [IsTrans World R] in
theorem quiet {x : Act α} (hx : ∀ {w u a}, x w = .ok (a, u) → w.Quiet u) : Keeps R x := fun w a u hu => by
  rw [hx hu]
  exact h.js w w.heap w.origin w.nextObj u.live w.calls u.pending

omit [Std.Refl R] [IsTrans World R] in
theorem free (b : Block) : Keeps R (free b) :=
  .modify fun w => h.js w w.heap w.origin w.nextObj _ w.calls w.pending

omit [IsTrans World R] in
theorem freeStr (s : Option CString) : Keeps R (freeStr s) := by
  cases s with
  | none => exact .pure _
  | some s => exact h.free _

omit [Std.Refl R] [IsTrans World R] in
theorem hostCall (c : HostCall) : Keeps R (hostCall c) :=
  .modify fun w => h.js w w.heap w.origin w.nextObj w.live _ w.pending

omit [Std.Refl R] [IsTrans World R] in
theorem setParam (o : ObjId) (k : String) (v : JsVal) : Keeps R (setParam P o k v) := by
  intro w a u hx
  rw [setParam_world hx]
  exact h.js w _ w.origin w.nextObj w.live w.calls _

omit [Std.Refl R] [IsTrans World R] in
theorem newFromStatic (isolate : IsolateId) (t : Option ObjectTemplate) : Keeps R (newFromStatic isolate t) := by
  intro w o u hx
  obtain ⟨t, -, -, -, rfl⟩ := newFromStatic_ok hx
  exact h.js w _ _ _ w.live w.calls w.pending

theorem classCallback (info : CallInfo) (template : Statics → Option ObjectTemplate) :
    Keeps R (classCallback info template) := by
  unfold MesiboV8.classCallback
  cases info.mod with
  | none => exact .pure _
  | some mod => exact .bind .get fun w => .bind (h.newFromStatic _ _) fun _ => .pure _

theorem sendPayload (info : CallInfo) (message : CString) : Keeps R (sendPayload P info message) := by
  unfold MesiboV8.sendPayload
  cases info.mod with
  | none => exact .pure _
  | some mod =>
    refine .bind (h.quiet (jtoCMessageParams_reads info.this).quiet) fun p => ?_
    dsimp only
    split
    · exact h.quiet invalidMessage_quiet
    · exact .bind .get fun w => .bind (h.hostCall _) fun _ => .bind (h.freeStr _) fun _ => .bind (h.freeStr _) fun _ =>
        .bind (h.free _) fun _ => .pure _

theorem messageCallback (info : CallInfo) : Keeps R (messageCallback P info) := by
  intro w r u hx
  obtain ⟨m, hm, -⟩ := messageCallback_reads hx
  by_cases hs : (getJsMessageType m).sent
  · rw [messageCallback_sent hm hs] at hx
    cases hp : payloadString P m w with
    | none => rw [hp] at hx; cases hx
    | some s =>
      rw [hp] at hx
      have hw := h.js w w.heap w.origin w.nextObj (.str :: w.live) w.calls w.pending
      exact IsTrans.trans _ _ _ hw (h.sendPayload _ _ _ _ _ hx)
  · rw [messageCallback_unsent hm hs] at hx
    split at hx
    · exact h.quiet invalidMessage_quiet _ _ _ hx
    · cases hx; exact Std.Refl.refl w

theorem enableCallback (property : String) (value : UInt64) (info : CallInfo) :
    Keeps R (enableCallback P property value info) := by
  refine .bind ?_ fun _ => .pure _
  unfold enableMessageProperty
  split
  · exact .bind (h.quiet reportException_quiet) fun _ => .pure _
  · split
    · exact .bind (h.quiet (jtoCParamUint_reads property info.this).quiet) fun _ => h.setParam _ _ _
    · exact .pure _

/-- A request adds its context; nothing else is new on the C++ side. -/
theorem httpCallback_sent {info : CallInfo} {w u : World} {r : JsVal} {mod : ModId} {cb d : JsVal}
    (hs : HttpSends info w mod cb d) (hx : httpCallback P info w = .ok (r, u)) :
    R (w.addContext (freshContext mod info.this cb d)) u := by
  rw [httpCallback_send hs] at hx
  exact Keeps.bind (h.quiet jtoCHttpOptions_quiet)
    (fun _ => .bind .get fun _ => .bind (h.hostCall _) fun _ => .pure _) _ _ _ hx

theorem httpCallback (info : CallInfo) : Keeps R (httpCallback P info) := by
  intro w r u hx
  rcases httpCallback_cases hx with ⟨mod, cb, d, hs⟩ | ⟨hq, -⟩
  · exact IsTrans.trans _ _ _ (h.request w _) (h.httpCallback_sent hs hx)
  · rw [hq]
    exact h.js w w.heap w.origin w.nextObj u.live w.calls u.pending

omit [IsTrans World R] in
theorem socketConnectCallback (info : CallInfo) : Keeps R (socketConnectCallback P info) := by
  intro w r u hx
  rcases socketConnectCallback_cases hx with ⟨-, rfl | ⟨d, -, rfl⟩⟩
  · exact Std.Refl.refl u
  · exact h.socket w _

theorem socketWriteCallback (info : CallInfo) : Keeps R (socketWriteCallback P info) := by
  unfold MesiboV8.socketWriteCallback
  split
  · exact .pure _
  split
  · exact .pure _
  split
  · exact .pure _
  split
  · exact .pure _
  refine .bind (h.quiet fun hx => (jtoCString_ok hx).1) fun s => ?_
  cases s with
  | none => exact .pure _
  | some s => exact .bind (h.hostCall _) fun _ => .bind (h.free _) fun _ => .pure _

theorem socketCloseCallback (info : CallInfo) : Keeps R (socketCloseCallback info) := by
  unfold MesiboV8.socketCloseCallback
  split
  · exact .pure _
  split
  · exact .pure _
  split
  · exact .pure _
  exact .bind (h.hostCall _) fun _ => .pure _

theorem logCallback (info : CallInfo) : Keeps R (logCallback P info) := by
  unfold MesiboV8.logCallback
  split
  · exact .bind (h.quiet reportException_quiet) fun _ => .pure _
  · exact .pure _

theorem callNative (cb : Native) (info : CallInfo) : Keeps R (callNative P cb info) := by
  cases cb with
  | logCallback => exact h.logCallback info
  | messageClassCallback => exact h.classCallback info _
  | messageCallback => exact h.messageCallback info
  | enableReadReceiptCallback => exact h.enableCallback _ _ info
  | enableDeliveryReceiptCallback => exact h.enableCallback _ _ info
  | enablePresenceCallback => exact h.enableCallback _ _ info
  | sendIfOnlineCallback => exact h.enableCallback _ _ info
  | httpClassCallback =>
    show Keeps R (httpClassCallback info)
    unfold httpClassCallback
    split
    · exact .pure _
    · exact h.classCallback info _
  | httpCallback => exact h.httpCallback info
  | socketClassCallback =>
    show Keeps R (socketClassCallback info)
    unfold socketClassCallback
    split
    · exact .pure _
    · exact h.classCallback info _
  | socketConnectCallback => exact h.socketConnectCallback info
  | socketWriteCallback => exact h.socketWriteCallback info
  | socketCloseCallback => exact h.socketCloseCallback info

theorem scriptRun {w u : World} (hr : ScriptRun P w u) : R w u := by
  induction hr with
  | done w => exact Std.Refl.refl w
  | @js w u heap nextObj pending _ ih =>
    exact IsTrans.trans _ _ _ (h.js w heap w.origin nextObj w.live w.calls pending) ih
  | native hc _ ih => exact IsTrans.trans _ _ _ (h.callNative _ _ _ _ _ hc) ih

end NativeFrame

theorem extends_nativeFrame : NativeFrame World.Extends where
  js := .of_js
  request := .addContext
  socket := fun _ _ => ⟨.refl _, rfl, rfl, Nat.le_succ _, fun _ _ => rfl⟩

theorem scriptRun_extends {w u : World} (h : ScriptRun P w u) : w.Extends u := extends_nativeFrame.scriptRun h

/-! ## Loading -/

theorem extends_loadFrame (hP : P.Sandboxed) : LoadFrame P World.Extends where
  refl := .refl
  trans := .trans
  statics := fun _ _ => ⟨setCallables_le _ _, rfl, rfl, Nat.le_refl _, fun _ _ => rfl⟩
  newInstance := fun _ w => .of_js w _ _ _ w.live w.calls w.pending
  globals := fun _ _ _ => ⟨.refl _, rfl, rfl, Nat.le_refl _, fun _ _ => rfl⟩
  run := fun context script w => scriptRun_extends (hP.run context script w)

theorem getContext_extends (hP : P.Sandboxed) {p p' : Processor} {fs : ScriptFile} {w w' : World} {st : Option Int64}
    (h : getContext P p fs w = .ok (st, p', w')) : w.Extends w' := (extends_loadFrame hP).getContext h

end MesiboV8
