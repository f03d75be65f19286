/-
  MesiboV8.IntegerProperties — what becomes of an integer property that holds no uint32.

  `JtoC_Uint` reports failure as the value -1, which no caller tells from a value:
  `send` passes it to the host and the `enable*` callables write it back, cut to 32 bits.
  So an ill-typed property is refused only where the call stops for another reason
  (`integer_properties_honest_iff`).
-/

import MesiboV8.MessageSend

namespace MesiboV8

open Lib.Bytes Lib.Utf Lib.Effects Act

variable {P : Platform}

/-- The field an integer property stands for; `none`: it is ill-typed. -/
def fieldValue (v : JsVal) : Option UInt64 :=
  if v.isNullOrUndefined then some 0 else if v.isUint32 then some v.uint32Value.toUInt64 else none

theorem fieldValue_isSome {v : JsVal} : (fieldValue v).isSome ↔ fieldValue v = some (uintParam v) := by
  unfold fieldValue uintParam jtoCUint
  by_cases hn : v.isNullOrUndefined
  · simp [hn]
  · by_cases h32 : v.isUint32 <;> simp [hn, h32]

theorem fieldValue_ofUint32 (x : UInt32) : (fieldValue (.ofUint32 x)).isSome := by
  have hn : (JsVal.ofUint32 x).isNullOrUndefined = false := rfl
  simp [fieldValue, hn, isUint32_iff.mpr ⟨x, rfl⟩]

/-! ## `send` -/

/-- If the host is called, every field is its property's own value. -/
def SendHonest (P : Platform) (info : CallInfo) (w : World) : Prop :=
  ∀ r u, messageCallback P info w = .ok (r, u) → u.calls = w.calls ∨
    ∃ mod p message len, u.calls = w.calls ++ [.mesiboMessage mod p message len] ∧
      p.ints.map some = intKeys.map fun k => (w.get info.this k).bind fieldValue

theorem intParams_honest {w : World} {o : ObjId} (hk : ∀ k ∈ intKeys, (w.get o k).isSome) :
    ((w.intParams o).map some = intKeys.map fun k => (w.get o k).bind fieldValue) ↔
      ∀ k ∈ intKeys, ∀ v, w.get o k = some v → (fieldValue v).isSome := by
  rw [World.intParams, List.map_map, List.map_inj_left]
  refine forall₂_congr fun k hmem => ?_
  obtain ⟨v, hv⟩ := Option.isSome_iff_exists.mp (hk k hmem)
  simp only [Function.comp_apply, hv, Option.getD_some, Option.bind_some, Option.some.injEq, forall_eq']
  rw [fieldValue_isSome, eq_comm]

theorem sendHonest_iff (info : CallInfo) (w : World) : SendHonest P info w ↔
    (SendReturns P info w → SendReaches info w →
      ∀ k ∈ intKeys, ∀ v, w.get info.this k = some v → (fieldValue v).isSome) := by
  by_cases hok : SendReturns P info w ∧ SendReaches info w
  · obtain ⟨hret, hreach⟩ := hok
    obtain ⟨r, u, mod, p, message, len, hu, -, hints, hcalls⟩ := messageCallback_reached hret hreach
    have hget : ∀ k ∈ intKeys, (w.get info.this k).isSome := by
      obtain ⟨⟨m, hm, hs⟩, ha⟩ := hreach
      obtain ⟨m', hm', hread⟩ := hret
      cases hm.symm.trans hm'
      exact fun k hk => (hread hs).2 ha.1 k (List.mem_append_left _ hk)
    simp only [hret, hreach, forall_const]
    rw [← intParams_honest hget, ← hints]
    constructor
    · intro h
      rcases h r u hu with he | ⟨mod', p', message', len', he, hp⟩
      · simp [hcalls] at he
      · rw [hcalls] at he
        simp only [List.append_cancel_left_eq, List.cons.injEq, HostCall.mesiboMessage.injEq, and_true] at he
        rw [he.2.1, hp]
    · intro hp r' u' hu'
      cases hu.symm.trans hu'
      exact .inr ⟨mod, p, message, len, hcalls, hp⟩
  · refine ⟨fun _ hret hreach => absurd ⟨hret, hreach⟩ hok, fun _ r u hu => .inl ?_⟩
    exact messageCallback_refused (fun hreach => hok ⟨messageCallback_reads hu, hreach⟩) hu

/-! ## The `enable*` callables -/

/-- Called with `true` on an ill-typed property, `callback` leaves the object as it is. -/
def EnableHonest (callback : CallInfo → Act JsVal) (property : String) (info : CallInfo) (w : World) : Prop :=
  ∀ v, w.heap info.this property = .data v → fieldValue v = none → info.arg 0 = .bool true →
    ∀ r u, callback info w = .ok (r, u) → u.heap info.this = w.heap info.this

theorem enableCallback_true (property : String) (value : UInt64) {info : CallInfo} {w : World} {v : JsVal}
    (hv : w.heap info.this property = .data v) (ht : info.arg 0 = .bool true) :
    ∃ r, enableCallback P property value info w =
      .ok (r, w.putSlot info.this property (.data (.ofUint32 (uintParam v ||| value).toUInt32))) := by
  have hset : enableMessageProperty P info property value w =
      .ok (P.MESIBO_RESULT_OK, w.putSlot info.this property (.data (.ofUint32 (uintParam v ||| value).toUInt32))) := by
    rw [enableMessageProperty, ht]
    exact (bind_eq (jtoCParamUint_eq (World.get_of_data hv))).trans (setParam_plain ⟨v, hv⟩ _)
  exact ⟨_, bind_eq hset⟩

theorem enableHonest_iff (property : String) (value : UInt64) {info : CallInfo} {w : World} {v : JsVal}
    (hv : w.heap info.this property = .data v) : EnableHonest (enableCallback P property value) property info w ↔
      (info.arg 0 = .bool true → (fieldValue v).isSome) := by
  constructor
  · intro h ht
    by_contra hill
    obtain ⟨r, hr⟩ := enableCallback_true (P := P) property value hv ht
    have he := congrFun (h v hv (by simpa using hill) ht r _ hr) property
    rw [hv] at he
    simp only [World.putSlot, Function.update_self, Slot.data.injEq] at he
    exact hill (he ▸ fieldValue_ofUint32 _)
  · intro h v' hv' hill ht
    cases hv.symm.trans hv'
    simp [hill] at h
    exact absurd ht h

/-- An ill-typed integer property is refused exactly where none is there to be passed on:
    by `send` when it does not get as far as the host for another reason, by the `enable*`
    callables when they have nothing to write. -/
theorem integer_properties_honest_iff (P : Platform) (info : CallInfo) (w : World) :
    (SendHonest P info w ↔ (SendReturns P info w → SendReaches info w →
      ∀ k ∈ intKeys, ∀ v, w.get info.this k = some v → (fieldValue v).isSome)) ∧
    ∀ e ∈ [(enableReadReceiptCallback P, MESSAGE_FLAGS), (enableDeliveryReceiptCallback P, MESSAGE_FLAGS),
        (enablePresenceCallback P, MESSAGE_FLAGS), (sendIfOnlineCallback P, MESSAGE_TO_ONLINE)],
      ∀ v, w.heap info.this e.2 = .data v →
        (EnableHonest e.1 e.2 info w ↔ (info.arg 0 = .bool true → (fieldValue v).isSome)) := by
  refine ⟨sendHonest_iff info w, fun e he v hv => ?_⟩
  simp only [List.mem_cons, List.not_mem_nil, or_false] at he
  rcases he with rfl | rfl | rfl | rfl <;> exact enableHonest_iff _ _ hv

/-- Every object is a message to be sent, with a `refid` of -1. -/
def World.badRefid : World :=
  { World.empty with heap := fun _ k => .data (if k = MESSAGE_REFID then .num (.int (-1))
      else if k = MESSAGE_MESSAGE then .str [] else .num (.int 1)) }

/-- A `refid` of -1 reaches the host as 2^64 - 1. -/
theorem bad_refid_is_sent : ¬SendHonest .reference ⟨0, .external (some 0), [], false, 0⟩ .badRefid := by
  rw [sendHonest_iff]
  intro h
  have hmsg : World.badRefid.get 0 MESSAGE_MESSAGE = some (.str []) := by decide
  have hret : SendReturns .reference ⟨0, .external (some 0), [], false, 0⟩ .badRefid :=
    ⟨_, hmsg, fun _ => ⟨nofun, fun _ _ _ => rfl⟩⟩
  have hreach : SendReaches ⟨0, .external (some 0), [], false, 0⟩ .badRefid :=
    ⟨⟨_, hmsg, rfl⟩, rfl, fun k hk v hv => by
      simp only [List.mem_cons, List.not_mem_nil, or_false] at hk
      rcases hk with rfl | rfl <;> cases hv <;> decide⟩
  have := h hret hreach MESSAGE_REFID (by decide) (.num (.int (-1))) (by decide)
  exact absurd this (by decide)

end MesiboV8
