/-
  MesiboV8.Natives — everything a registered function can bring about, effect by effect.

  `NativeEffect` lists what one call changes besides JS objects: a block that is never
  freed, a message sent, a request made, a socket context left behind, a socket written to or
  closed. Every callable is a sequence of these (`callNative_effects`), and so is a script
  (`scriptRun_effects`): what survives each of them survives any script.

  A request and its context are one effect: no context is allocated that the host is not
  given, and no `mesibo_http_t` but the one it is given with.
-/

import MesiboV8.Scripts
import Mathlib.Logic.Relation

namespace MesiboV8

open Lib.Bytes Lib.Utf Lib.Effects Act Relation

variable {P : Platform}

/-! ## Well-formed host calls -/

/-- A uint32, or the -1 that stands for an ill-typed property. -/
def UintField (x : UInt64) : Prop := x.toNat < 2 ^ 32 ∨ x = -1

/-- An int32; an ill-typed value is -1, which is one. -/
def IntField (x : Int64) : Prop := -2 ^ 31 ≤ x.toInt ∧ x.toInt < 2 ^ 31

def HttpRequest.ints (r : HttpRequest) : List UInt64 :=
  [r.ims, r.connTimeout, r.headerTimeout, r.bodyTimeout, r.totalTimeout]

structure HttpRequest.WellFormed (r : HttpRequest) : Prop where
  url : r.url.isSome
  post : r.post.isSome
  onData : r.onData = some .jsMesiboHttpOndata
  onStatus : r.onStatus = some .jsMesiboHttpOnstatus
  onClose : r.onClose = some .jsMesiboHttpOnclose
  ints : ∀ x ∈ r.ints, UintField x

def HostCall.WellFormed : HostCall → Prop
  | .mesiboMessage _ p message len =>
    p.aid ≠ 0 ∧ p.id ≠ 0 ∧ (∀ x ∈ p.ints, UintField x) ∧ len = .ofNat message.bytes.length
  | .mesiboUtilHttp req _ => ∀ r ∈ req, r.WellFormed
  | .mesiboUtilSocketConnect _ _ => False
  | .mesiboUtilSocketWrite sock _ len => IntField sock ∧ IntField len
  | .mesiboUtilSocketClose sock => IntField sock

theorem uintParam_field (v : JsVal) : UintField (uintParam v) := by
  unfold uintParam jtoCUint
  split
  · exact .inl (by decide)
  · split
    · exact .inr rfl
    · exact .inl v.uint32Value.toNat_lt

theorem jtoCInt_field (v : JsVal) : IntField (jtoCInt v) := by
  unfold IntField jtoCInt
  by_cases h : v.isInt32
  · rw [h]
    unfold JsVal.isInt32 at h
    split at h
    · rename_i n
      simp only [Bool.and_eq_true, decide_eq_true_eq] at h
      have hn : (JsVal.num (.int n)).integerValue.toInt = n := Int64.toInt_ofInt_of_le (by omega) (by omega)
      simp only [Bool.not_true, Bool.false_eq_true, if_false, hn]
      omega
    · cases h
  · simp only [h, Bool.not_false, if_true]
    decide

/-! ## Effects -/

inductive NativeEffect : World → World → Prop
  | js (w : World) (heap : ObjId → String → Slot) (origin : ObjId → Option IsolateId) (nextObj : ObjId)
      (pending : Option JsVal) :
      NativeEffect w { w with heap := heap, origin := origin, nextObj := nextObj, pending := pending }
  /-- A block that is never freed. -/
  | leak (w : World) (b : Block) (hb : b ≠ .http) : NativeEffect w { w with live := b :: w.live }
  /-- A message; the copy of its payload stays. -/
  | message (w : World) (mod : ModId) (p : MessageParams) (s : CString) (len : Int64)
      (h : (HostCall.mesiboMessage mod p s len).WellFormed) :
      NativeEffect w { w with live := .str :: w.live, calls := w.calls ++ [.mesiboMessage mod p s len] }
  /-- A request with its new context. -/
  | request (w : World) (mod : ModId) (o : ObjId) (cb d : JsVal) (req : Option HttpRequest) (strs : List Block)
      (hcb : cb.isFunction) (hreq : (HostCall.mesiboUtilHttp req w.nextAddr).WellFormed)
      (hstrs : ∀ b ∈ strs, b = .str) :
      NativeEffect w { w.addContext (freshContext mod o cb d) with
        live := strs ++ .http :: w.live
        calls := w.calls ++ [.mesiboUtilHttp req w.nextAddr] }
  | socket (w : World) (d : JsVal) : NativeEffect w (w.addSocket { jsCbdata := some d })
  | write (w : World) (sock : Int64) (data : CString) (len : Int64)
      (h : (HostCall.mesiboUtilSocketWrite sock data len).WellFormed) :
      NativeEffect w { w with calls := w.calls ++ [.mesiboUtilSocketWrite sock data len] }
  | close (w : World) (sock : Int64) (h : (HostCall.mesiboUtilSocketClose sock).WellFormed) :
      NativeEffect w { w with calls := w.calls ++ [.mesiboUtilSocketClose sock] }

abbrev NativeEffects : World → World → Prop := ReflTransGen NativeEffect

theorem NativeEffects.pending (w : World) (x : Option JsVal) : NativeEffects w { w with pending := x } :=
  .single (.js w w.heap w.origin w.nextObj x)

theorem NativeEffects.leaks (w : World) {l : List Block} (h : ∀ b ∈ l, b ≠ .http) :
    NativeEffects w { w with live := l ++ w.live } := by
  induction l with
  | nil => exact .refl
  | cons b l ih =>
    have hl := ih fun x hx => h x (List.mem_cons_of_mem _ hx)
    exact hl.tail (.leak { w with live := l ++ w.live } b (h b List.mem_cons_self))

/-! ## What is allocated and freed -/

theorem reportException_effects {info : CallInfo} {message : String} :
    Keeps NativeEffects (reportExceptionInCallable P info message) := fun w r u h => by
  rw [reportException_world h]
  exact .pending w _

theorem invalidMessage_effects {info : CallInfo} {message : String} :
    Keeps NativeEffects (invalidMessage P info message) := .bind reportException_effects fun _ => .pure _

theorem jtoCMessageParams_world {o : ObjId} {w u : World} {p : MessageParams}
    (h : jtoCMessageParams P o w = .ok (p, u)) :
    u = ({ w with live := .messageParams :: w.live }.withCopy p.to_).withCopy p.from_ := by
  rw [jtoCMessageParams, bind_eq (malloc_apply _ _)] at h
  simp only [jtoCParamUint_bind] at h
  obtain ⟨aid, -, id, -, refid, -, groupid, -, flags, -, type, -, expiry, -, toOnline, -, h⟩ := h
  obtain ⟨to_, w₁, hto, h⟩ := bind_ok.mp h
  obtain ⟨from_, w₂, hfrom, h⟩ := bind_ok.mp h
  cases h
  obtain ⟨⟨vt, hvt, rfl⟩, -⟩ := jtoCParamString_ok hto
  cases (jtoCParamString_eq hvt).symm.trans hto
  obtain ⟨⟨vf, hvf, rfl⟩, -⟩ := jtoCParamString_ok hfrom
  cases (jtoCParamString_eq hvf).symm.trans hfrom
  rfl

theorem jtoCMessageParams_effects (o : ObjId) : Keeps NativeEffects (jtoCMessageParams P o) := fun w p u h => by
  rw [jtoCMessageParams_world h]
  cases p.to_ <;> cases p.from_
  · exact .leaks w (l := [.messageParams]) (by decide)
  · exact .leaks w (l := [.str, .messageParams]) (by decide)
  · exact .leaks w (l := [.str, .messageParams]) (by decide)
  · exact .leaks w (l := [.str, .str, .messageParams]) (by decide)

/-! ## Messages -/

theorem jtoCMessageParams_ints {o : ObjId} {w u : World} {p : MessageParams}
    (h : jtoCMessageParams P o w = .ok (p, u)) : ∀ x ∈ p.ints, UintField x := by
  rw [(jtoCMessageParams_ok h).1]
  intro x hx
  obtain ⟨k, -, rfl⟩ := List.mem_map.mp hx
  exact uintParam_field _

/-- The payload's copy is there already: without a module it is all there is, a message that lacks `aid` or `id` is
    reported, and one that is sent frees all but that copy. -/
theorem sendPayload_cases {info : CallInfo} {message : CString} {w u : World} {r : JsVal}
    (h : sendPayload P info message { w with live := .str :: w.live } = .ok (r, u)) :
    (info.mod = none ∧ u = { w with live := .str :: w.live }) ∨
    ∃ mod p v, info.mod = some mod ∧ jtoCMessageParams P info.this { w with live := .str :: w.live } = .ok (p, v) ∧
      (((p.aid = 0 ∨ p.id = 0) ∧ invalidMessage P info "Invalid params" v = .ok (r, u)) ∨
        (¬(p.aid = 0 ∨ p.id = 0) ∧ u = { w with
          live := .str :: w.live
          calls := w.calls ++ [.mesiboMessage mod p message (.ofNat message.bytes.length)] })) := by
  unfold sendPayload at h
  cases hm : info.mod with
  | none =>
    rw [hm] at h
    cases h
    exact .inl ⟨rfl, rfl⟩
  | some mod =>
    rw [hm] at h
    obtain ⟨p, v, hp, h⟩ := bind_ok.mp h
    refine .inr ⟨mod, p, v, rfl, hp, ?_⟩
    split at h
    · rename_i hz
      exact .inl ⟨hz, h⟩
    · rename_i hz
      refine .inr ⟨hz, ?_⟩
      rw [jtoCMessageParams_world hp] at h
      cases hto : p.to_ <;> cases hfrom : p.from_ <;> rw [hto, hfrom] at h <;> cases h <;> rfl

theorem sendPayload_effects {info : CallInfo} {message : CString} {w u : World} {r : JsVal}
    (h : sendPayload P info message { w with live := .str :: w.live } = .ok (r, u)) : NativeEffects w u := by
  have hcopy : NativeEffects w { w with live := .str :: w.live } := .single (.leak w .str (by decide))
  rcases sendPayload_cases h with ⟨-, rfl⟩ | ⟨mod, p, v, -, hp, ⟨-, h⟩ | ⟨hz, rfl⟩⟩
  · exact hcopy
  · exact (hcopy.trans (jtoCMessageParams_effects _ _ _ _ hp)).trans (invalidMessage_effects _ _ _ h)
  · exact .single (.message w mod p message _ ⟨fun e => hz (.inl e), fun e => hz (.inr e), jtoCMessageParams_ints hp, rfl⟩)

theorem messageCallback_effects (info : CallInfo) : Keeps NativeEffects (messageCallback P info) := by
  intro w r u h
  obtain ⟨m, hm, -⟩ := messageCallback_reads h
  by_cases hs : (getJsMessageType m).sent
  · rw [messageCallback_sent hm hs] at h
    split at h
    · exact sendPayload_effects h
    · cases h
  · rw [messageCallback_unsent hm hs] at h
    split at h
    · exact invalidMessage_effects _ _ _ h
    · cases h
      exact .refl

theorem setParam_effects (o : ObjId) (k : String) (v : JsVal) : Keeps NativeEffects (setParam P o k v) := by
  intro w a u h
  rw [setParam_world h]
  exact .single (.js w _ w.origin w.nextObj _)

theorem jtoCParamUint_world {k : String} {o : ObjId} {w u : World} {x : UInt64} (h : jtoCParamUint k o w = .ok (x, u)) :
    u = w := by
  obtain ⟨v, hv⟩ := Option.isSome_iff_exists.mp (((jtoCParamUint_reads k o).returns w).mp ⟨_, h⟩ k (by simp))
  cases (jtoCParamUint_eq hv).symm.trans h
  rfl

theorem enableCallback_effects (property : String) (value : UInt64) (info : CallInfo) :
    Keeps NativeEffects (enableCallback P property value info) := by
  refine .bind ?_ fun _ => .pure _
  unfold enableMessageProperty
  split
  · exact .bind reportException_effects fun _ => .pure _
  · split
    · refine .bind (fun w x u h => ?_) fun _ => setParam_effects _ _ _
      rw [jtoCParamUint_world h]
    · exact .pure _

/-! ## Requests -/

/-- Only copies of strings were made. -/
def World.Copies (w u : World) : Prop := ∃ strs : List Block, (∀ b ∈ strs, b = .str) ∧ u = { w with live := strs ++ w.live }

instance : Std.Refl World.Copies := ⟨fun _ => ⟨[], nofun, rfl⟩⟩

instance : IsTrans World World.Copies := ⟨fun w u v h g => by
  obtain ⟨l, hl, rfl⟩ := h
  obtain ⟨m, hm, rfl⟩ := g
  refine ⟨m ++ l, fun b hb => ?_, by simp⟩
  exact (List.mem_append.mp hb).elim (hm b) (hl b)⟩

theorem jtoCParamString_copies (k : String) (o : ObjId) : Keeps World.Copies (jtoCParamString P k o) := by
  intro w s u h
  obtain ⟨⟨v, hv, rfl⟩, -⟩ := jtoCParamString_ok h
  cases (jtoCParamString_eq hv).symm.trans h
  cases stringParam P v w with
  | none => exact Std.Refl.refl w
  | some s => exact ⟨[.str], by decide, rfl⟩

theorem jtoCParamUint_copies (k : String) (o : ObjId) : Keeps World.Copies (jtoCParamUint k o) := by
  intro w x u h
  rw [jtoCParamUint_world h]
  exact Std.Refl.refl w

theorem jtoCParamUint_field (k : String) (o : ObjId) : Ensures UintField (jtoCParamUint k o) :=
  .bind_any fun v => .pure (uintParam_field v)

theorem jtoCHttpOptionsRest_copies (url post : CString) (o : ObjId) :
    Keeps World.Copies (jtoCHttpOptionsRest P url post o) := by
  have str := fun k => jtoCParamString_copies (P := P) k o
  have int := fun k => jtoCParamUint_copies k o
  exact .bind (str _) fun _ => .bind (str _) fun _ => .bind (str _) fun _ => .bind (str _) fun _ => .bind (str _) fun _ =>
    .bind (str _) fun _ => .bind (str _) fun _ => .bind (str _) fun _ => .bind (str _) fun _ => .bind (int _) fun _ =>
    .bind (int _) fun _ => .bind (int _) fun _ => .bind (int _) fun _ => .bind (int _) fun _ => .pure _

theorem jtoCHttpOptionsRest_wellFormed (url post : CString) (o : ObjId) :
    Ensures HttpRequest.WellFormed (jtoCHttpOptionsRest P url post o) := by
  have int := fun k => jtoCParamUint_field k o
  refine .bind_any fun _ => .bind_any fun _ => .bind_any fun _ => .bind_any fun _ => .bind_any fun _ => .bind_any fun _ =>
    .bind_any fun _ => .bind_any fun _ => .bind_any fun _ => ?_
  refine .bind (int _) fun a ha => .bind (int _) fun b hb => .bind (int _) fun c hc => .bind (int _) fun d hd =>
    .bind (int _) fun e he => .pure ⟨rfl, rfl, rfl, rfl, rfl, ?_⟩
  intro x hx
  simp only [HttpRequest.ints, List.mem_cons, List.not_mem_nil, or_false] at hx
  rcases hx with rfl | rfl | rfl | rfl | rfl <;> assumption

theorem jtoCHttpOptions_world {o : ObjId} {w u : World} {req : Option HttpRequest}
    (h : jtoCHttpOptions P o w = .ok (req, u)) :
    (∀ r ∈ req, r.WellFormed) ∧ World.Copies { w with live := .http :: w.live } u := by
  rw [jtoCHttpOptions, bind_eq (malloc_apply _ _)] at h
  obtain ⟨url, w₁, h₁, h⟩ := bind_ok.mp h
  have c₁ := jtoCParamString_copies _ _ _ _ _ h₁
  cases url with
  | none => cases h; exact ⟨by simp, c₁⟩
  | some url =>
    obtain ⟨post, w₂, h₂, h⟩ := bind_ok.mp h
    have c₂ := IsTrans.trans _ _ _ c₁ (jtoCParamString_copies _ _ _ _ _ h₂)
    cases post with
    | none => cases h; exact ⟨by simp, c₂⟩
    | some post =>
      obtain ⟨req, w₃, h₃, h⟩ := bind_ok.mp h
      cases h
      refine ⟨fun r hr => ?_, IsTrans.trans _ _ _ c₂ (jtoCHttpOptionsRest_copies _ _ _ _ _ _ h₃)⟩
      cases hr
      exact jtoCHttpOptionsRest_wellFormed _ _ _ _ _ _ h₃

/-- A call that does not come to a request reports an error, if anything. -/
theorem httpCallback_unsent {info : CallInfo} {w u : World} {r : JsVal} (hs : ¬∃ mod cb d, HttpSends info w mod cb d)
    (h : httpCallback P info w = .ok (r, u)) : NativeEffects w u := by
  by_cases hc : info.isConstructCall
  · unfold httpCallback at h
    rw [if_pos hc] at h
    exact invalidMessage_effects _ _ _ h
  · rcases httpCallback_cases h with hx | ⟨-, hx | ⟨cb, hcb, hd⟩⟩
    · exact absurd hx hs
    · exact absurd hx hc
    · by_cases hf : cb.isFunction
      · obtain ⟨⟨d, hd⟩, hm⟩ := hd hf
        have hget : (get : Act World) w = .ok (w, w) := rfl
        unfold httpCallback at h
        rw [if_neg hc, bind_eq hget, hcb, bind_eq (toLocalChecked_some cb w), if_neg (by simp [hf]), bind_eq hget, hd,
          bind_eq (toLocalChecked_some d w), hm] at h
        cases h
        exact .refl
      · rw [httpCallback_noFunction hc hcb hf] at h
        exact invalidMessage_effects _ _ _ h

theorem httpCallback_effects (info : CallInfo) : Keeps NativeEffects (httpCallback P info) := by
  intro w r u h
  by_cases hs : ∃ mod cb d, HttpSends info w mod cb d
  · obtain ⟨mod, cb, d, hs⟩ := hs
    rw [httpCallback_send hs] at h
    obtain ⟨req, v, hreq, h⟩ := bind_ok.mp h
    cases h
    obtain ⟨hform, strs, hstrs, rfl⟩ := jtoCHttpOptions_world hreq
    exact .single (.request w mod info.this cb d req strs hs.function hform hstrs)
  · exact httpCallback_unsent hs h

/-! ## The rest -/

theorem classCallback_effects (info : CallInfo) (template : Statics → Option ObjectTemplate) :
    Keeps NativeEffects (classCallback info template) := by
  unfold classCallback
  cases info.mod with
  | none => exact .pure _
  | some mod =>
    refine .bind .get fun w => .bind (fun v a u h => ?_) fun _ => .pure _
    obtain ⟨t, -, -, -, rfl⟩ := newFromStatic_ok h
    exact .single (.js v _ _ _ v.pending)

theorem socketConnectCallback_effects (info : CallInfo) : Keeps NativeEffects (socketConnectCallback P info) := by
  intro w r u h
  rcases socketConnectCallback_cases h with ⟨-, rfl | ⟨d, -, rfl⟩⟩
  · exact .refl
  · exact .single (.socket w d)

theorem socketWriteCallback_effects (info : CallInfo) : Keeps NativeEffects (socketWriteCallback P info) := by
  intro w r u h
  unfold socketWriteCallback at h
  split at h
  · cases h; exact .refl
  split at h
  · cases h; exact .refl
  split at h
  · cases h; exact .refl
  split at h
  · cases h; exact .refl
  obtain ⟨data, v, hv, h⟩ := bind_ok.mp h
  obtain rfl := jtoCString_world hv
  cases data with
  | none => cases h; exact .refl
  | some data =>
    -- the copy is freed again
    cases h
    exact .single (.write w _ data _ ⟨jtoCInt_field _, jtoCInt_field _⟩)

theorem socketCloseCallback_effects (info : CallInfo) : Keeps NativeEffects (socketCloseCallback info) := by
  intro w r u h
  unfold socketCloseCallback at h
  split at h
  · cases h; exact .refl
  split at h
  · cases h; exact .refl
  split at h
  · cases h; exact .refl
  cases h
  exact .single (.close w _ (jtoCInt_field _))

theorem logCallback_effects (info : CallInfo) : Keeps NativeEffects (logCallback P info) := by
  unfold logCallback
  split
  · exact .bind reportException_effects fun _ => .pure _
  · exact .pure _

/-- A registered function brings about nothing but these effects. -/
theorem callNative_effects (cb : Native) (info : CallInfo) : Keeps NativeEffects (callNative P cb info) := by
  cases cb with
  | logCallback => exact logCallback_effects info
  | messageClassCallback => exact classCallback_effects info _
  | messageCallback => exact messageCallback_effects info
  | enableReadReceiptCallback => exact enableCallback_effects _ _ info
  | enableDeliveryReceiptCallback => exact enableCallback_effects _ _ info
  | enablePresenceCallback => exact enableCallback_effects _ _ info
  | sendIfOnlineCallback => exact enableCallback_effects _ _ info
  | httpClassCallback =>
    show Keeps NativeEffects (httpClassCallback info)
    unfold httpClassCallback
    split
    · exact .pure _
    · exact classCallback_effects info _
  | httpCallback => exact httpCallback_effects info
  | socketClassCallback =>
    show Keeps NativeEffects (socketClassCallback info)
    unfold socketClassCallback
    split
    · exact .pure _
    · exact classCallback_effects info _
  | socketConnectCallback => exact socketConnectCallback_effects info
  | socketWriteCallback => exact socketWriteCallback_effects info
  | socketCloseCallback => exact socketCloseCallback_effects info

theorem scriptRun_effects {w u : World} (h : ScriptRun P w u) : NativeEffects w u := by
  induction h with
  | done w => exact .refl
  | @js w u heap nextObj pending _ ih => exact ReflTransGen.head (.js w heap w.origin nextObj pending) ih
  | native hc _ ih => exact (callNative_effects _ _ _ _ _ hc).trans ih

end MesiboV8
