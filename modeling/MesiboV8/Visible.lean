/-
  MesiboV8.Visible — what a script sees of its calls of the module.

  A registered function that comes back has either had an error to report, or it has not
  (`Native.Complains`). The error is for nobody to see: the function looks for its own name
  in `Data()`, which is an `External` and has none. No error: then of all properties of all
  objects those of one new object may differ, or the one property that the `enable*`
  functions set, and the one exception there can be is that of a setter of that property
  (`callNative_visible`).
-/

import MesiboV8.Callables
import MesiboV8.Natives

namespace MesiboV8

open Lib.Bytes Lib.Utf Lib.Effects Act

variable {P : Platform}

/-! ## Errors -/

/-- `GetName` of an `External` is undefined. -/
def Platform.NamelessExternals (P : Platform) : Prop := ∀ mod, P.functionName mod = none

/-- So the error is dropped. -/
theorem reportException_dropped (hx : P.NamelessExternals) {info : CallInfo} {message : String} {w u : World} {r : JsVal}
    (h : reportExceptionInCallable P info message w = .ok (r, u)) : u = w := by
  unfold reportExceptionInCallable at h
  cases hd : info.data with
  | undefined => rw [hd] at h; cases h
  | external mod =>
    have hname : dataName P (.external mod) w = .ok (.undefined, w) := by rw [dataName, hx]; rfl
    rw [hd, bind_eq hname] at h
    cases h
    rfl

theorem invalidMessage_dropped (hx : P.NamelessExternals) {info : CallInfo} {message : String} {w u : World} {r : JsVal}
    (h : invalidMessage P info message w = .ok (r, u)) : r = .undefined ∧ u = w := by
  obtain ⟨x, v, hr, h⟩ := bind_ok.mp h
  cases h
  exact ⟨rfl, reportException_dropped hx hr⟩

/-! ## Properties -/

/-- The property an `enable*` function sets on its receiver. -/
def Native.property : Native → Option String
  | .enableReadReceiptCallback | .enableDeliveryReceiptCallback | .enablePresenceCallback => some MESSAGE_FLAGS
  | .sendIfOnlineCallback => some MESSAGE_TO_ONLINE
  | _ => none

/-- The properties a function may change. -/
def Native.Touches (info : CallInfo) (w : World) (cb : Native) (o : ObjId) (k : String) : Prop :=
  (cb.isClass = true ∧ o = w.nextObj) ∨ (cb.property = some k ∧ o = info.this)

/-- What assigning to a property throws. -/
def Slot.throws : Slot → Option JsVal
  | data _ => none
  | accessor _ e => e

theorem Slot.set_throws (s : Slot) (v : JsVal) : (s.set v).1 = s.throws := by cases s <;> rfl

/-- What the setter of its property throws at a call that assigns to it. -/
def Native.throws (info : CallInfo) (w : World) (cb : Native) : Option JsVal :=
  match cb.property with
  | some k => if info.arg 0 = .bool true then (w.heap info.this k).throws else none
  | none => none

/-- There is no exception but that, after which undefined is returned, and nothing has changed but those. -/
structure Unseen (info : CallInfo) (cb : Native) (w u : World) (r : JsVal) : Prop where
  pending : u.pending = (cb.throws info w).or w.pending
  returned : (cb.throws info w).isSome → r = .undefined
  heap : ∀ o k, ¬cb.Touches info w o k → u.heap o k = w.heap o k

theorem Unseen.of_same {info : CallInfo} {cb : Native} {w u : World} {r : JsVal} (ht : cb.throws info w = none)
    (hp : u.pending = w.pending) (hh : u.heap = w.heap) : Unseen info cb w u r where
  pending := by rw [ht, hp]; rfl
  returned := fun h => by rw [ht] at h; cases h
  heap := fun o k _ => by rw [hh]

/-- Nothing but allocations has changed. -/
def Dropped (w u : World) (r : JsVal) : Prop := r = .undefined ∧ u = { w with live := u.live }

/-- What a script sees of the function. -/
def Visible (info : CallInfo) (cb : Native) (w u : World) (r : JsVal) : Prop :=
  ((∃ message, cb.Complains info w message) ∧ Dropped w u r) ∨
    ((∀ message, ¬cb.Complains info w message) ∧ Unseen info cb w u r)

/-! ## The functions -/

section Functions

variable {info : CallInfo} {w u : World} {r : JsVal}

theorem class_visible {cb : Native} (hcb : cb.isClass = true) (h : callNative P cb info w = .ok (r, u)) :
    Unseen info cb w u r := by
  have hq : cb.throws info w = none := by cases cb <;> first | rfl | cases hcb
  by_cases hi : Instantiates cb info
  · rw [class_instantiates hcb hi] at h
    obtain ⟨o, v, ho, h⟩ := bind_ok.mp h
    obtain ⟨t, -, -, rfl, rfl⟩ := newFromStatic_ok ho
    cases h
    refine ⟨by rw [hq]; rfl, fun h => (by rw [hq] at h; cases h), fun o k hn => ?_⟩
    have ho : o ≠ w.nextObj := fun e => hn (.inl ⟨hcb, e⟩)
    exact congrFun (Function.update_of_ne ho _ _) k
  · cases (class_refuses hcb hi w).symm.trans h
    exact .of_same hq rfl rfl

theorem enableCallback_visible (hx : P.NamelessExternals) {cb : Native} {property : String} {value : UInt64}
    (hcb : cb.property = some property) (h : enableCallback P property value info w = .ok (r, u)) :
    (¬(info.arg 0).isBoolean ∧ Dropped w u r) ∨ ((info.arg 0).isBoolean ∧ Unseen info cb w u r) := by
  obtain ⟨rv, v, hrv, h⟩ := bind_ok.mp h
  cases h
  unfold enableMessageProperty at hrv
  by_cases hb : (info.arg 0).isBoolean
  · rw [if_neg (by simp [hb])] at hrv
    refine .inr ⟨hb, ?_⟩
    split at hrv
    · rename_i ht
      have hthrows : cb.throws info w = (w.heap info.this property).throws := by simp only [Native.throws, hcb, ht, if_true]
      obtain ⟨x, y, hread, hset⟩ := bind_ok.mp hrv
      obtain rfl := jtoCParamUint_world hread
      have hset : setParam P info.this property (.ofUint32 (x ||| value).toUInt32) y = .ok (rv, u) := hset
      refine ⟨?_, fun he => if_pos ?_, fun o k hn => ?_⟩
      · rw [setParam_world hset, hthrows, ← Slot.set_throws _ (.ofUint32 (x ||| value).toUInt32)]
        rfl
      · rw [hthrows, ← Slot.set_throws _ (.ofUint32 (x ||| value).toUInt32)] at he
        exact setParam_throws hset he
      · rw [setParam_world hset]
        refine World.heap_putSlot_ne _ _ ?_
        by_cases ho : o = info.this
        · exact .inr fun e => hn (.inr ⟨by rw [hcb, e], ho⟩)
        · exact .inl ho
    · rename_i ht
      cases hrv
      exact .of_same (by simp only [Native.throws, hcb, ht, if_false]) rfl rfl
  · rw [if_pos (by simp [hb])] at hrv
    obtain ⟨x, y, hr, hrv⟩ := bind_ok.mp hrv
    cases hrv
    exact .inl ⟨hb, if_pos rfl, by rw [reportException_dropped hx hr]⟩

theorem messageCallback_visible (hx : P.NamelessExternals) (h : messageCallback P info w = .ok (r, u)) :
    Visible info .messageCallback w u r := by
  obtain ⟨m, hm, -⟩ := messageCallback_reads h
  have complains : ∀ message, Native.Complains info w .messageCallback message →
      (getJsMessageType m = .invalid ∧ message = "Invalid: message") ∨
        ((getJsMessageType m).sent ∧ info.mod.isSome ∧ ¬Addressed info w ∧ message = "Invalid params") := by
    intro message hc
    obtain ⟨m', hm', hc⟩ := hc
    cases hm.symm.trans hm'
    exact hc
  by_cases hs : (getJsMessageType m).sent
  · have hinvalid : getJsMessageType m ≠ .invalid := fun e => by rw [e] at hs; cases hs
    rw [messageCallback_sent hm hs] at h
    split at h
    · rcases sendPayload_cases h with ⟨hmod, rfl⟩ | ⟨mod, p, v, hmod, hp, ⟨hz, h⟩ | ⟨hz, rfl⟩⟩
      · refine .inr ⟨fun message hc => ?_, .of_same rfl rfl rfl⟩
        rcases complains message hc with ⟨hi, -⟩ | ⟨-, hsome, -⟩
        · exact hinvalid hi
        · rw [hmod] at hsome
          cases hsome
      · have haddr : ¬Addressed info w := fun ha => (addressed_iff (by rw [hmod]; rfl) hp).mp ha hz
        obtain ⟨hr, rfl⟩ := invalidMessage_dropped hx h
        refine .inl ⟨⟨"Invalid params", m, hm, .inr ⟨hs, by rw [hmod]; rfl, haddr, rfl⟩⟩, hr, ?_⟩
        rw [jtoCMessageParams_world hp]
        cases p.to_ <;> cases p.from_ <;> rfl
      · refine .inr ⟨fun message hc => ?_, .of_same rfl rfl rfl⟩
        rcases complains message hc with ⟨hi, -⟩ | ⟨-, -, ha, -⟩
        · exact hinvalid hi
        · exact ha ((addressed_iff (by rw [hmod]; rfl) hp).mpr hz)
    · cases h
  · rw [messageCallback_unsent hm hs] at h
    split at h
    · rename_i hi
      obtain ⟨hr, rfl⟩ := invalidMessage_dropped hx h
      exact .inl ⟨⟨_, m, hm, .inl ⟨hi, rfl⟩⟩, hr, rfl⟩
    · rename_i hi
      cases h
      refine .inr ⟨fun message hc => ?_, .of_same rfl rfl rfl⟩
      rcases complains message hc with ⟨hinv, -⟩ | ⟨hsent, -⟩
      · exact hi hinv
      · exact hs hsent

theorem httpCallback_visible (hx : P.NamelessExternals) (h : httpCallback P info w = .ok (r, u)) :
    Visible info .httpCallback w u r := by
  have hget : (get : Act World) w = .ok (w, w) := rfl
  by_cases hc : info.isConstructCall
  · rw [httpCallback_construct hc] at h
    obtain ⟨hr, rfl⟩ := invalidMessage_dropped hx h
    exact .inl ⟨⟨_, .inl ⟨hc, rfl⟩⟩, hr, rfl⟩
  by_cases hf : ∃ f, w.get info.this HTTP_ONDATA = some f ∧ ¬f.isFunction
  · obtain ⟨f, hf, hfun⟩ := hf
    rw [httpCallback_noFunction hc hf hfun] at h
    obtain ⟨hr, rfl⟩ := invalidMessage_dropped hx h
    exact .inl ⟨⟨_, .inr ⟨hc, ⟨f, hf, hfun⟩, rfl⟩⟩, hr, rfl⟩
  · have silent : ∀ message, ¬Native.Complains info w .httpCallback message := by
      intro message hx
      rcases hx with ⟨hx, -⟩ | ⟨-, hx, -⟩
      · exact hc hx
      · exact hf hx
    refine .inr ⟨silent, ?_⟩
    rcases httpCallback_cases h with ⟨mod, cb, d, hs⟩ | ⟨-, hx | ⟨cb, hcb, hd⟩⟩
    · rw [httpCallback_send hs] at h
      obtain ⟨req, v, hreq, h⟩ := bind_ok.mp h
      cases h
      obtain ⟨-, strs, -, rfl⟩ := jtoCHttpOptions_world hreq
      exact .of_same rfl rfl rfl
    · exact absurd hx hc
    · have hfun : cb.isFunction := not_not.mp fun hn => hf ⟨cb, hcb, hn⟩
      obtain ⟨⟨d, hd⟩, hm⟩ := hd hfun
      unfold httpCallback at h
      rw [if_neg hc, bind_eq hget, hcb, bind_eq (toLocalChecked_some cb w), if_neg (by simp [hfun]), bind_eq hget, hd,
        bind_eq (toLocalChecked_some d w), hm] at h
      cases h
      exact .of_same rfl rfl rfl

theorem socketWriteCallback_visible (h : socketWriteCallback P info w = .ok (r, u)) :
    Unseen info .socketWriteCallback w u r := by
  unfold socketWriteCallback at h
  split at h
  · cases h; exact .of_same rfl rfl rfl
  split at h
  · cases h; exact .of_same rfl rfl rfl
  split at h
  · cases h; exact .of_same rfl rfl rfl
  split at h
  · cases h; exact .of_same rfl rfl rfl
  obtain ⟨data, v, hv, h⟩ := bind_ok.mp h
  obtain rfl := jtoCString_world hv
  cases data <;> cases h <;> exact .of_same rfl rfl rfl

theorem socketCloseCallback_visible (h : socketCloseCallback info w = .ok (r, u)) :
    Unseen info .socketCloseCallback w u r := by
  unfold socketCloseCallback at h
  split at h
  · cases h; exact .of_same rfl rfl rfl
  split at h
  · cases h; exact .of_same rfl rfl rfl
  split at h
  · cases h; exact .of_same rfl rfl rfl
  cases h
  exact .of_same rfl rfl rfl

theorem logCallback_visible (hx : P.NamelessExternals) (h : logCallback P info w = .ok (r, u)) :
    Visible info .logCallback w u r := by
  unfold logCallback at h
  split at h
  · rename_i ha
    obtain ⟨x, v, hr, h⟩ := bind_ok.mp h
    cases h
    obtain rfl := reportException_dropped hx hr
    exact .inl ⟨⟨_, List.isEmpty_iff.mp ha, rfl⟩, rfl, rfl⟩
  · rename_i ha
    cases h
    exact .inr ⟨fun message hc => ha (List.isEmpty_iff.mpr hc.1), .of_same rfl rfl rfl⟩

/-- A function that comes back has had an error to report, which nobody sees, and has changed nothing but allocations;
    or it has had none, and has changed the properties it may change, with no exception but that of a setter of theirs. -/
theorem callNative_visible (hx : P.NamelessExternals) {cb : Native} (h : callNative P cb info w = .ok (r, u)) :
    ((∃ message, cb.Complains info w message) ∧ r = .undefined ∧ u = { w with live := u.live }) ∨
      ((∀ message, ¬cb.Complains info w message) ∧ u.pending = (cb.throws info w).or w.pending ∧
        ((cb.throws info w).isSome → r = .undefined) ∧ ∀ o k, ¬cb.Touches info w o k → u.heap o k = w.heap o k) := by
  suffices hv : Visible info cb w u r from hv.imp_right fun hu => ⟨hu.1, hu.2.pending, hu.2.returned, hu.2.heap⟩
  have enables : ∀ {cb : Native} {property value}, cb.property = some property →
      (∀ message, cb.Complains info w message ↔ ¬(info.arg 0).isBoolean ∧ message = "Bad Parameters") →
      enableCallback P property value info w = .ok (r, u) → Visible info cb w u r := by
    intro cb property value hcb hc h
    rcases enableCallback_visible hx hcb h with ⟨hb, hdrop⟩ | ⟨hb, hu⟩
    · exact .inl ⟨⟨_, (hc _).mpr ⟨hb, rfl⟩⟩, hdrop⟩
    · exact .inr ⟨fun message hx => ((hc message).mp hx).1 hb, hu⟩
  cases cb with
  | logCallback => exact logCallback_visible hx h
  | messageClassCallback => exact .inr ⟨fun _ hc => hc, class_visible rfl h⟩
  | messageCallback => exact messageCallback_visible hx h
  | enableReadReceiptCallback => exact enables rfl (fun _ => Iff.rfl) h
  | enableDeliveryReceiptCallback => exact enables rfl (fun _ => Iff.rfl) h
  | enablePresenceCallback => exact enables rfl (fun _ => Iff.rfl) h
  | sendIfOnlineCallback => exact enables rfl (fun _ => Iff.rfl) h
  | httpClassCallback => exact .inr ⟨fun _ hc => hc, class_visible rfl h⟩
  | httpCallback => exact httpCallback_visible hx h
  | socketClassCallback => exact .inr ⟨fun _ hc => hc, class_visible rfl h⟩
  | socketConnectCallback =>
    refine .inr ⟨fun _ hc => hc, ?_⟩
    rcases socketConnectCallback_cases h with ⟨-, rfl | ⟨d, -, rfl⟩⟩
    · exact Unseen.of_same rfl rfl rfl
    · exact Unseen.of_same rfl rfl rfl
  | socketWriteCallback => exact .inr ⟨fun _ hc => hc, socketWriteCallback_visible h⟩
  | socketCloseCallback => exact .inr ⟨fun _ hc => hc, socketCloseCallback_visible h⟩

end Functions

/-- The setter of `toOnline` throws the string "no". -/
def World.guarded : World :=
  World.blank.putSlot 0 MESSAGE_TO_ONLINE (.accessor (some (.num (.int 0))) (some (.str (jsLiteral "no"))))

/-- `sendIfOnline(true)` leaves that pending. -/
theorem callNative_visible_guarded : ∃ r u,
    callNative .reference .sendIfOnlineCallback ⟨0, .undefined, [.bool true], false, 0⟩ .guarded = .ok (r, u) ∧
    u.pending = some (.str (jsLiteral "no")) ∧ r = .undefined := by
  obtain ⟨r, u, hu⟩ : ∃ r u, callNative .reference .sendIfOnlineCallback ⟨0, .undefined, [.bool true], false, 0⟩ .guarded =
    .ok (r, u) := ⟨_, _, rfl⟩
  rcases callNative_visible (fun _ => rfl) hu with ⟨⟨message, hc⟩, -⟩ | ⟨-, hp, hr, -⟩
  · exact absurd rfl hc.1
  · exact ⟨r, u, hu, hp, hr rfl⟩

end MesiboV8
