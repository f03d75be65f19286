/-
  MesiboV8.Echo — what a handler that sends back the message it was called with sends.

  `CtoJ_MessageParams` stores parameters only, and the template of a message has no
  `message` property. So the object has none (`ctoJMessageParams_slot`), its `send` reports
  an invalid message, and the host is asked for nothing (`echo_never`).
-/

import MesiboV8.Templates

namespace MesiboV8

open Lib.Bytes Lib.Utf Lib.Effects Lib.Runs Act

variable {P : Platform}

/-! ## The object a handler gets -/

/-- `u` has made the host calls of `w`, and has the slot of `w`. -/
def World.SameSlot (o : ObjId) (k : String) (w u : World) : Prop := u.calls = w.calls ∧ u.heap o k = w.heap o k

instance (o : ObjId) (k : String) : Std.Refl (World.SameSlot o k) := ⟨fun _ => ⟨rfl, rfl⟩⟩
instance (o : ObjId) (k : String) : IsTrans World (World.SameSlot o k) :=
  ⟨fun _ _ _ h g => ⟨g.1.trans h.1, g.2.trans h.2⟩⟩

theorem setParam_sameSlot {o : ObjId} {k l : String} (h : k ≠ l) (v : JsVal) :
    Keeps (World.SameSlot o k) (setParam P o l v) := fun w a u hx => by
  rw [setParam_world hx]
  exact ⟨rfl, World.heap_putSlot_ne w _ (.inr h)⟩

/-- A property that is not a parameter is as the template has it. -/
theorem ctoJMessageParams_slot {isolate : IsolateId} {p : MessageParams} {w u : World} {o : ObjId}
    (h : ctoJMessageParams P isolate p w = .ok (o, u)) : u.calls = w.calls ∧ ∃ t, w.statics.messageTemplate = some t ∧
      ∀ k ∉ paramKeys, u.heap o k = .data ((t.slots.lookup k).getD .undefined) := by
  have slot : ∀ k ∉ paramKeys, ∃ t, w.statics.messageTemplate = some t ∧ t.isolate = isolate ∧ o = w.nextObj ∧
      World.SameSlot w.nextObj k (w.newInstance t).2 u := fun k hk =>
    ctoJMessageParams_keeps h fun l hl => setParam_sameSlot fun e => hk (e ▸ hl)
  obtain ⟨t, ht, -, rfl, hcalls, -⟩ := slot MESSAGE_MESSAGE (by decide)
  refine ⟨hcalls, t, ht, fun k hk => ?_⟩
  obtain ⟨t', ht', -, -, -, hslot⟩ := slot k hk
  cases ht.symm.trans ht'
  rw [hslot, World.newInstance_plain]

/-! ## The echo -/

/-- The function calls `send` of the object it is given, and with that does what it does to the host. -/
def Platform.Echoes (P : Platform) (f : JsVal) : Prop :=
  ∀ context o w cb data, w.get o MESSAGE_SEND = some (.native cb data) →
    ∀ r u, callNative P cb ⟨o, data, [], false, context.isolate⟩ w = .ok (r, u) →
      (P.call context f [.object o] w).2.calls = u.calls

/-- Between `w` and `u` the host is asked once, by `mod`, to send `p` and `message`. -/
def Echoed (mod : ModId) (p : MessageParams) (message : CString) (w u : World) : Prop :=
  u.calls = w.calls ++ [.mesiboMessage mod p message (.ofNat message.bytes.length)]

/-- `send` on a message that has no `message` does nothing to the host. -/
theorem send_silent (hn : P.ShortNames) {info : CallInfo} (hd : info.data ≠ .undefined) {w : World}
    (hm : w.get info.this MESSAGE_MESSAGE = some .undefined) :
    ∃ r u, messageCallback P info w = .ok (r, u) ∧ u.calls = w.calls := by
  rw [messageCallback_unsent hm (by decide), if_pos (by rfl)]
  have hshort : (utf8 "Invalid: message".toList).length ≤ 2 ^ 20 := by decide
  obtain ⟨⟨r, u⟩, h⟩ := invalidMessage_returns hn hd hshort w
  exact ⟨r, u, h, (invalidMessage_quiet h).calls⟩

/-- A handler that sends back what it is given asks the host for nothing. `w₁` is the world
    `GetContext` left: the calls before are those of a reload. -/
theorem echo_silent (hP : P.Sandboxed) (hn : P.ShortNames) {es : List Event} {s t : System}
    (h : run (step P) .start es = .ok s) {mod : ModId} {p : MessageParams} {message : CString} {len : UInt64}
    {fs : ScriptFile} {rv : Int64} {mp mp' : Processor} {st : Option Int64} {w₁ : World} {f : JsVal}
    (hmp : s.processor mod = some mp) (hg : getContext P mp fs (cloneParams p s.world) = .ok (st, mp', w₁))
    (hf : mp'.jsMesiboOnMessage = some f) (he : P.Echoes f)
    (hx : v8OnMessage P mod p message len fs s = .ok (rv, t)) : t.world.calls = w₁.calls := by
  obtain ⟨mp₀, mp₁, w, hmp₀, ho, rfl⟩ := v8OnMessage_cases hx
  cases hmp.symm.trans hmp₀
  obtain ⟨st₀, u, context, o, v, f₀, hg₀, -, hm, hf₀, hw⟩ := onMessage_cases ho
  cases hg.symm.trans hg₀
  cases hf.symm.trans hf₀
  obtain ⟨hcalls, tmpl, ht, hslot⟩ := ctoJMessageParams_slot hm
  rcases hw with ⟨-, rfl⟩ | hw
  · exact hcalls
  -- The template is the one the first module made, and has a `send` and no `message`.
  obtain ⟨m₀, -, ht₀⟩ := (run_shared hP h).first hmp
  have hle : (cloneParams p s.world).statics.Le w₁.statics := (statics_hostFrame hP).getContext hg
  rw [show (cloneParams p s.world).statics = .ofModule 0 m₀ from ht₀] at hle
  rw [hle.eq_ofModule] at ht
  cases ht
  have hsend : v.heap o MESSAGE_SEND = .data (.native .messageCallback (.external (some m₀))) :=
    hslot MESSAGE_SEND (by decide)
  have hmessage : v.heap o MESSAGE_MESSAGE = .data .undefined := hslot MESSAGE_MESSAGE (by decide)
  have hw' : w = _ := (congrArg Prod.snd hw).symm.trans (executeJsFunctionObj_world context f [.object o] v)
  have hdata : (⟨o, .external (some m₀), [], false, context.isolate⟩ : CallInfo).data ≠ .undefined := fun h => by cases h
  obtain ⟨r, x, hr, hxc⟩ := send_silent hn hdata
    (w := { v with invoked := v.invoked ++ [⟨f, [.object o], v.heap⟩] }) (World.get_of_data hmessage)
  show w.calls = w₁.calls
  rw [hw']
  refine (he context o _ .messageCallback _ ?_ r x hr).trans (hxc.trans hcalls)
  exact World.get_of_data hsend

/-- No message is echoed. -/
theorem echo_never (hP : P.Sandboxed) (hn : P.ShortNames) {es : List Event} {s t : System}
    (h : run (step P) .start es = .ok s) {mod : ModId} {p : MessageParams} {message : CString} {len : UInt64}
    {fs : ScriptFile} {rv : Int64} {mp mp' : Processor} {st : Option Int64} {w₁ : World} {f : JsVal}
    (hmp : s.processor mod = some mp) (hg : getContext P mp fs (cloneParams p s.world) = .ok (st, mp', w₁))
    (hf : mp'.jsMesiboOnMessage = some f) (he : P.Echoes f)
    (hx : v8OnMessage P mod p message len fs s = .ok (rv, t)) : ¬Echoed mod p message w₁ t.world := by
  unfold Echoed
  rw [echo_silent hP hn h hmp hg hf he hx]
  simp

/-! ## A script that echoes -/

/-- The world with `mesibo.onmessage` of the context set to a function. -/
def World.listen (context : CtxId) (w : World) : World :=
  match (w.globals context).bind (w.get · JS_MESIBO_GLOBAL_OBJECT) with
  | some (.object mesibo) => (w.set mesibo JS_MESIBO_LISTENER_ON_MESSAGE (.func 1)).2
  | _ => w

/-- Call `send` of the first argument. -/
def World.sendBack (isolate : IsolateId) (args : List JsVal) (w : World) : World :=
  match args with
  | [.object o] =>
    match w.get o MESSAGE_SEND with
    | some (.native cb data) =>
      match callNative .reference cb ⟨o, data, [], false, isolate⟩ w with
      | .ok (_, u) => u
      | .error _ => w
    | _ => w
  | _ => w

/-- Scripts that set a listener, which sends back what it is given. -/
def Platform.echo : Platform :=
  { Platform.reference with
    run := fun context _ w => (some .undefined, w.listen context)
    call := fun context _ args w => (some .undefined, w.sendBack context.isolate args) }

theorem callNative_echo (cb : Native) : callNative .echo cb = callNative .reference cb := by
  cases cb <;> rfl

theorem Platform.echo_sandboxed : Platform.echo.Sandboxed where
  run := fun context script w => by
    show ScriptRun .echo w (w.listen context)
    unfold World.listen
    split
    · exact .js _ w.nextObj w.pending (.done _)
    · exact .done w
  call := fun context f args w => by
    show ScriptRun .echo w (w.sendBack context.isolate args)
    unfold World.sendBack
    split
    · split
      · split
        · rename_i h
          rw [← callNative_echo] at h
          exact .native h (.done _)
        · exact .done w
      · exact .done w
    · exact .done w

theorem Platform.echo_echoes (f : JsVal) : Platform.echo.Echoes f := by
  intro context o w cb data hsend r u h
  show (w.sendBack context.isolate [.object o]).calls = u.calls
  rw [callNative_echo] at h
  simp only [World.sendBack, hsend, h]

/-- A message from `a` to `b`. -/
def MessageParams.sample : MessageParams where
  aid := 1
  id := 2
  refid := 0
  groupid := 0
  flags := 0
  type := 0
  expiry := 3600
  toOnline := 0
  to_ := some (.ofBytes [0x62])
  from_ := some (.ofBytes [0x61])

/-- A module is initialised, and gets the message "hi" with `aid` 1 and `id` 2. -/
structure EchoRun (s : System) (mp : Processor) (st : Option Int64) (mp' : Processor) (w₁ : World) (rv : Int64)
    (t : System) : Prop where
  start : run (step .echo) .start [.moduleInit 7 (some ⟨some "a.js", some "0"⟩) ⟨some 1, true, some []⟩] = .ok s
  processor : s.processor 7 = some mp
  context : getContext .echo mp ⟨some 1, true, some []⟩ (cloneParams .sample s.world) = .ok (st, mp', w₁)
  listener : mp'.jsMesiboOnMessage = some (.func 1)
  message : v8OnMessage .echo 7 .sample (.ofBytes [0x68, 0x69]) 2 ⟨some 1, true, some []⟩ s = .ok (rv, t)

theorem echoRun_exists : ∃ s mp st mp' w₁ rv t, EchoRun s mp st mp' w₁ rv t :=
  ⟨_, _, _, _, _, _, _, rfl, rfl, rfl, rfl, rfl⟩

theorem echo_never_sample : ∃ s mp st mp' w₁ rv t, EchoRun s mp st mp' w₁ rv t ∧
    ¬Echoed 7 .sample (.ofBytes [0x68, 0x69]) w₁ t.world := by
  obtain ⟨s, mp, st, mp', w₁, rv, t, h⟩ := echoRun_exists
  exact ⟨s, mp, st, mp', w₁, rv, t, h, echo_never Platform.echo_sandboxed nofun h.start h.processor h.context h.listener
    (Platform.echo_echoes _) h.message⟩

theorem message_not_echoed : ¬∀ s mp st mp' w₁ rv t, EchoRun s mp st mp' w₁ rv t →
    Echoed 7 .sample (.ofBytes [0x68, 0x69]) w₁ t.world := by
  intro hall
  obtain ⟨s, mp, st, mp', w₁, rv, t, h⟩ := echoRun_exists
  have := hall _ _ _ _ _ _ _ h
  rw [Echoed, echo_silent Platform.echo_sandboxed nofun h.start h.processor h.context h.listener
    (Platform.echo_echoes _) h.message] at this
  simp at this

end MesiboV8
