/-
  MesiboV8.Params — what reading and writing the properties of a params object does.

  - A reader looks properties up and allocates, and nothing else; it fails exactly when
    one of its lookups throws (`Reads`, closed under sequencing). `JtoC_MessageParams` and
    the options of `JtoC_HttpOptions` are such readers (`jtoCMessageParams_reads`,
    `jtoCHttpOptionsRest_reads`), and `jtoCMessageParams_ok` says what the first returns.
  - `CtoJ_MessageParams` makes an object of the template and stores ten plain properties
    on it (`ctoJMessageParams_eq`).
-/

import MesiboV8.Message
import MesiboV8.Http

namespace MesiboV8

open Lib.Bytes Lib.Utf Lib.Effects Act

variable {P : Platform}

/-! ## Quiet code -/

/-- Nothing but the allocated blocks and the pending exception differs. -/
def World.Quiet (w u : World) : Prop := u = { w with live := u.live, pending := u.pending }

namespace World.Quiet

variable {w u v : World}

theorem refl (w : World) : w.Quiet w := rfl

theorem trans (h : w.Quiet u) (g : u.Quiet v) : w.Quiet v := by
  unfold Quiet at *
  rw [g, h]

theorem withLive (w : World) (l : List Block) : w.Quiet { w with live := l } := rfl

theorem heap (h : w.Quiet u) : u.heap = w.heap := by rw [h]

theorem get (h : w.Quiet u) (o : ObjId) (k : String) : u.get o k = w.get o k := by
  rw [World.get, World.get, h.heap]

theorem calls (h : w.Quiet u) : u.calls = w.calls := by rw [h]

theorem https (h : w.Quiet u) : u.https = w.https := by rw [h]

end World.Quiet

/-! ## Readers -/

/-- `x` looks up the properties `ks` of `o`, and otherwise only allocates. -/
structure Reads {α : Type} (x : Act α) (o : ObjId) (ks : List String) : Prop where
  quiet : ∀ {w u a}, x w = .ok (a, u) → w.Quiet u
  returns : ∀ w, (∃ r, x w = .ok r) ↔ ∀ k ∈ ks, (w.get o k).isSome

namespace Reads

variable {α β : Type} {o : ObjId} {ks ls : List String}

theorem pure (a : α) : Reads (pure a : Act α) o [] where
  quiet := fun h => by cases h; exact .refl _
  returns := fun w => by simp

theorem malloc (b : Block) : Reads (malloc b) o [] where
  quiet := fun h => by cases h; exact .withLive _ _
  returns := fun w => by simp

theorem bind {x : Act α} {f : α → Act β} (hx : Reads x o ks) (hf : ∀ a, Reads (f a) o ls) :
    Reads (x >>= f) o (ks ++ ls) where
  quiet := fun h => by
    obtain ⟨a, v, hv, h⟩ := bind_ok.mp h
    exact (hx.quiet hv).trans ((hf a).quiet h)
  returns := fun w => by
    constructor
    · intro hx k hk
      obtain ⟨⟨b, u⟩, h⟩ := hx
      obtain ⟨a, v, hv, h⟩ := bind_ok.mp h
      rcases List.mem_append.mp hk with hk | hk
      · exact (hx.returns w).mp ⟨_, hv⟩ k hk
      · rw [← (hx.quiet hv).get]
        exact ((hf a).returns v).mp ⟨_, h⟩ k hk
    · intro h
      obtain ⟨⟨a, v⟩, hv⟩ := (hx.returns w).mpr fun k hk => h k (List.mem_append_left _ hk)
      rw [bind_eq hv]
      refine ((hf a).returns v).mpr fun k hk => ?_
      rw [(hx.quiet hv).get]
      exact h k (List.mem_append_right _ hk)

end Reads

/-- What `JtoC_ParamUint` makes of a property's value. -/
def uintParam (v : JsVal) : UInt64 := if v.isNullOrUndefined then 0 else jtoCUint v

/-- The values a `uint32` test accepts are those `Integer::NewFromUnsigned` makes. -/
theorem isUint32_iff {v : JsVal} : v.isUint32 = true ↔ ∃ x : UInt32, v = .ofUint32 x := by
  constructor
  · intro h
    unfold JsVal.isUint32 at h
    split at h
    · rename_i n
      simp only [Bool.and_eq_true, decide_eq_true_eq] at h
      refine ⟨.ofNat n.toNat, ?_⟩
      have hn : n.toNat % 2 ^ 32 = n.toNat := Nat.mod_eq_of_lt (by omega)
      rw [JsVal.ofUint32, UInt32.toNat_ofNat', hn, Int.toNat_of_nonneg h.1]
    · cases h
  · intro hx
    obtain ⟨x, rfl⟩ := hx
    have hx := x.toNat_lt
    simp only [JsVal.ofUint32, JsVal.isUint32, Bool.and_eq_true, decide_eq_true_eq]
    omega

theorem uintParam_ofUint32 (x : UInt32) : uintParam (.ofUint32 x) = x.toUInt64 := by
  have h32 : (JsVal.ofUint32 x).isUint32 = true := isUint32_iff.mpr ⟨x, rfl⟩
  rw [uintParam, if_neg (by simp [JsVal.ofUint32, JsVal.isNullOrUndefined]), jtoCUint, h32]
  simp [JsVal.ofUint32, JsVal.uint32Value]

theorem uintParam_eq_zero {v : JsVal} : uintParam v = 0 ↔ v.isNullOrUndefined ∨ v = .num (.int 0) := by
  by_cases hn : v.isNullOrUndefined
  · simp [uintParam, hn]
  · by_cases h32 : v.isUint32
    · obtain ⟨x, rfl⟩ := isUint32_iff.mp h32
      rw [uintParam_ofUint32]
      have h0 : x.toUInt64 = 0 ↔ x = 0 := ⟨fun h => by rw [← UInt32.toUInt32_toUInt64 x, h]; rfl, fun h => by rw [h]; rfl⟩
      have h1 : JsVal.ofUint32 x = .num (.int 0) ↔ x = 0 := by
        rw [JsVal.ofUint32, JsVal.num.injEq, JsNum.int.injEq, ← UInt32.toNat_inj]
        exact Int.natCast_eq_zero
      simp [h0, h1, hn]
    · have h0 : v ≠ .num (.int 0) := by intro e; subst e; exact h32 rfl
      simp [uintParam, hn, jtoCUint, h32, h0]

/-- What `JtoC_ParamString` makes of it. -/
def stringParam (P : Platform) (v : JsVal) (w : World) : Option CString :=
  if v.isNullOrUndefined then none else (P.toUtf8 v w).map .ofBytes

theorem getParamValue_ok {k : String} {o : ObjId} {w u : World} {v : JsVal} :
    getParamValue k o w = .ok (v, u) ↔ w.get o k = some v ∧ u = w := by
  show toLocalChecked (w.get o k) w = _ ↔ _
  cases w.get o k with
  | none => simp
  | some a => simp [eq_comm]

theorem getParamValue_reads (k : String) (o : ObjId) : Reads (getParamValue k o) o [k] where
  quiet := fun h => by rw [(getParamValue_ok.mp h).2]; exact .refl _
  returns := fun w => by
    constructor
    · intro hx
      obtain ⟨⟨v, u⟩, h⟩ := hx
      simp [(getParamValue_ok.mp h).1]
    · intro h
      obtain ⟨v, hv⟩ := Option.isSome_iff_exists.mp (h k (by simp))
      exact ⟨(v, w), getParamValue_ok.mpr ⟨hv, rfl⟩⟩

theorem jtoCParamUint_eq {k : String} {o : ObjId} {w : World} {v : JsVal} (h : w.get o k = some v) :
    jtoCParamUint k o w = .ok (uintParam v, w) := bind_eq (getParamValue_ok.mpr ⟨h, rfl⟩)

theorem jtoCParamUint_bind {α : Type} {k : String} {o : ObjId} {f : UInt64 → Act α} {w u : World} {a : α} :
    (jtoCParamUint k o >>= f) w = .ok (a, u) ↔ ∃ v, w.get o k = some v ∧ f (uintParam v) w = .ok (a, u) := by
  simp only [jtoCParamUint, bind_ok, getParamValue_ok, pure_apply, Except.ok.injEq, Prod.mk.injEq]
  constructor
  · intro hx
    obtain ⟨_, _, ⟨v, _, ⟨hv, rfl⟩, rfl, rfl⟩, h⟩ := hx
    exact ⟨v, hv, h⟩
  · intro hx
    obtain ⟨v, hv, h⟩ := hx
    exact ⟨_, w, ⟨v, w, ⟨hv, rfl⟩, rfl, rfl⟩, h⟩

theorem jtoCParamUint_reads (k : String) (o : ObjId) : Reads (jtoCParamUint k o) o [k] :=
  (getParamValue_reads k o).bind fun _ => .pure _

/-- With the copy of a string, where there is one. -/
def World.withCopy (w : World) (s : Option CString) : World :=
  if s.isSome then { w with live := .str :: w.live } else w

theorem World.withCopy_quiet (w : World) (s : Option CString) : w.Quiet (w.withCopy s) := by
  cases s with
  | none => exact .refl w
  | some s => exact .withLive w _

theorem jtoCParamString_eq {k : String} {o : ObjId} {w : World} {v : JsVal} (h : w.get o k = some v) :
    jtoCParamString P k o w = .ok (stringParam P v w, w.withCopy (stringParam P v w)) := by
  rw [jtoCParamString, bind_eq (getParamValue_ok.mpr ⟨h, rfl⟩), stringParam]
  by_cases hv : v.isNullOrUndefined
  · simp only [hv, if_true]
    rfl
  · simp only [hv, Bool.false_eq_true, if_false]
    rw [get_bind]
    cases P.toUtf8 v w with
    | none => rfl
    | some b => rfl

theorem jtoCParamString_ok {k : String} {o : ObjId} {w u : World} {s : Option CString}
    (h : jtoCParamString P k o w = .ok (s, u)) : (∃ v, w.get o k = some v ∧ s = stringParam P v w) ∧ w.Quiet u := by
  have hr := h
  rw [jtoCParamString, bind_ok] at hr
  obtain ⟨v, w', hv, -⟩ := hr
  obtain ⟨hv, -⟩ := getParamValue_ok.mp hv
  cases (jtoCParamString_eq hv).symm.trans h
  exact ⟨⟨v, hv, rfl⟩, w.withCopy_quiet _⟩

theorem jtoCParamString_reads (k : String) (o : ObjId) : Reads (jtoCParamString P k o) o [k] where
  quiet := fun h => (jtoCParamString_ok h).2
  returns := fun w => by
    constructor
    · intro hx
      obtain ⟨⟨s, u⟩, h⟩ := hx
      obtain ⟨⟨v, hv, -⟩, -⟩ := jtoCParamString_ok h
      simp [hv]
    · intro h
      obtain ⟨v, hv⟩ := Option.isSome_iff_exists.mp (h k (by simp))
      exact ⟨_, jtoCParamString_eq hv⟩

theorem jtoCMessageParams_reads (o : ObjId) : Reads (jtoCMessageParams P o) o paramKeys := by
  have int := fun k => jtoCParamUint_reads k o
  have str := fun k => jtoCParamString_reads (P := P) k o
  exact (Reads.malloc _).bind fun _ => (int _).bind fun _ => (int _).bind fun _ => (int _).bind fun _ =>
    (int _).bind fun _ => (int _).bind fun _ => (int _).bind fun _ => (int _).bind fun _ => (int _).bind fun _ =>
    (str _).bind fun _ => (str _).bind fun _ => .pure _

theorem jtoCHttpOptionsRest_reads (url post : CString) (o : ObjId) :
    Reads (jtoCHttpOptionsRest P url post o) o httpRestKeys := by
  have int := fun k => jtoCParamUint_reads k o
  have str := fun k => jtoCParamString_reads (P := P) k o
  exact (str _).bind fun _ => (str _).bind fun _ => (str _).bind fun _ => (str _).bind fun _ => (str _).bind fun _ =>
    (str _).bind fun _ => (str _).bind fun _ => (str _).bind fun _ => (str _).bind fun _ => (int _).bind fun _ =>
    (int _).bind fun _ => (int _).bind fun _ => (int _).bind fun _ => (int _).bind fun _ => .pure _

/-! ## `JtoC_MessageParams` -/

/-- The integer fields, in the order of `intKeys`. -/
def MessageParams.ints (p : MessageParams) : List UInt64 :=
  [p.aid, p.id, p.refid, p.groupid, p.flags, p.type, p.expiry, p.toOnline]

/-- What the integer properties of an object convert to. -/
def World.intParams (w : World) (o : ObjId) : List UInt64 :=
  intKeys.map fun k => uintParam ((w.get o k).getD .undefined)

theorem jtoCMessageParams_ok {o : ObjId} {w u : World} {p : MessageParams}
    (h : jtoCMessageParams P o w = .ok (p, u)) :
    p.ints = w.intParams o ∧
    (∃ v x, w.get o MESSAGE_TO = some v ∧ w.Quiet x ∧ p.to_ = stringParam P v x) ∧
    ∃ v x, w.get o MESSAGE_FROM = some v ∧ w.Quiet x ∧ p.from_ = stringParam P v x := by
  rw [jtoCMessageParams, bind_eq (malloc_apply _ _)] at h
  simp only [jtoCParamUint_bind] at h
  obtain ⟨aid, ha, id, hi, refid, hr, groupid, hg, flags, hf, type, ht, expiry, he, toOnline, hn, h⟩ := h
  obtain ⟨to_, w₁, hto, h⟩ := bind_ok.mp h
  obtain ⟨from_, w₂, hfrom, h⟩ := bind_ok.mp h
  cases h
  have h₀ : w.Quiet { w with live := .messageParams :: w.live } := .withLive _ _
  obtain ⟨⟨vt, hvt, rfl⟩, h₁⟩ := jtoCParamString_ok hto
  obtain ⟨⟨vf, hvf, rfl⟩, -⟩ := jtoCParamString_ok hfrom
  rw [h₀.get] at ha hi hr hg hf ht he hn hvt
  rw [(h₀.trans h₁).get] at hvf
  refine ⟨?_, ⟨vt, _, hvt, h₀, rfl⟩, vf, _, hvf, h₀.trans h₁, rfl⟩
  simp only [MessageParams.ints, World.intParams, intKeys, List.map_cons, List.map_nil, ha, hi, hr, hg, hf, ht, he, hn, Option.getD_some]

/-! ## Writers -/

/-- Plain values stored one after the other. -/
def World.putData (w : World) (o : ObjId) (kvs : List (String × JsVal)) : World :=
  kvs.foldl (fun w kv => w.putSlot o kv.1 (.data kv.2)) w

namespace World

variable {w : World} {o p : ObjId} {k : String} {v : JsVal} {kvs : List (String × JsVal)}

theorem putData_heap_ne (h : p ≠ o ∨ k ∉ kvs.map (·.1)) : (w.putData o kvs).heap p k = w.heap p k := by
  induction kvs generalizing w with
  | nil => rfl
  | cons kv kvs ih =>
    rw [List.map_cons, List.mem_cons, not_or] at h
    rw [putData, List.foldl_cons, ← putData, ih (h.imp_right (·.2)), heap_putSlot_ne w _ (h.imp_right (·.1))]

theorem putData_heap_mem (hn : (kvs.map (·.1)).Nodup) (h : (k, v) ∈ kvs) : (w.putData o kvs).heap o k = .data v := by
  induction kvs generalizing w with
  | nil => cases h
  | cons kv kvs ih =>
    rw [List.map_cons, List.nodup_cons] at hn
    rw [putData, List.foldl_cons, ← putData]
    rcases List.mem_cons.mp h with rfl | h
    · rw [putData_heap_ne (.inr hn.1)]
      simp [putSlot]
    · exact ih hn.2 h

theorem putData_plain (h : ∀ l, w.Plain o l) (kvs : List (String × JsVal)) : ∀ l, (w.putData o kvs).Plain o l := by
  induction kvs generalizing w with
  | nil => exact h
  | cons kv kvs ih => exact ih fun l => (h l).putSlot o kv.1 kv.2

end World

/-- `x` stores `kvs` on an object whose properties are plain, and returns `a`. -/
def Stores {α : Type} (x : Act α) (o : ObjId) (kvs : List (String × JsVal)) (a : α) : Prop :=
  ∀ w : World, (∀ k, w.Plain o k) → x w = .ok (a, w.putData o kvs)

namespace Stores

variable {α β : Type} {o : ObjId} {kvs : List (String × JsVal)}

theorem pure (a : α) : Stores (pure a : Act α) o [] a := fun _ _ => rfl

theorem cons {x : Act α} {f : α → Act β} {a : α} {b : β} {kv : String × JsVal} (hx : Stores x o [kv] a)
    (hf : Stores (f a) o kvs b) : Stores (x >>= f) o (kv :: kvs) b := by
  intro w hw
  rw [bind_eq (hx w hw), hf _ (World.putData_plain hw [kv])]
  rfl

end Stores

/-- The JS value of a C string; `none`: V8 cannot hold it. -/
def jsString (P : Platform) : Option CString → Option JsVal
  | none => some .null
  | some s => (P.newFromUtf8 s.bytes).map .str

/-- The slot is assigned to, and what its setter throws is pending. -/
theorem setParam_eq (o : ObjId) (k : String) (v : JsVal) (w : World) : ∃ rv, setParam P o k v w =
    .ok (rv, { (w.set o k v).2 with pending := (w.set o k v).1.or w.pending }) := by
  unfold setParam
  rw [get_bind, bind_eq (show (set (w.set o k v).2 : Act PUnit) w = .ok (⟨⟩, (w.set o k v).2) from rfl)]
  cases (w.set o k v).1 with
  | none => exact ⟨_, rfl⟩
  | some e => exact ⟨_, rfl⟩

theorem setParam_world {o : ObjId} {k : String} {v : JsVal} {w u : World} {rv : Int64}
    (h : setParam P o k v w = .ok (rv, u)) : u = { (w.set o k v).2 with pending := (w.set o k v).1.or w.pending } := by
  obtain ⟨rv', he⟩ := setParam_eq (P := P) o k v w
  cases he.symm.trans h
  rfl

/-- What throws is reported to the caller. -/
theorem setParam_throws {o : ObjId} {k : String} {v : JsVal} {w u : World} {rv : Int64}
    (h : setParam P o k v w = .ok (rv, u)) (he : (w.set o k v).1.isSome) : rv = P.MESIBO_RESULT_FAIL := by
  obtain ⟨e, he⟩ := Option.isSome_iff_exists.mp he
  rw [setParam, get_bind, bind_eq (show (set (w.set o k v).2 : Act PUnit) w = .ok (⟨⟩, (w.set o k v).2) from rfl), he] at h
  cases h
  rfl

theorem setParam_plain {o : ObjId} {k : String} {w : World} (h : w.Plain o k) (v : JsVal) :
    setParam P o k v w = .ok (P.MESIBO_RESULT_OK, w.putSlot o k (.data v)) := by
  rw [setParam, get_bind, h.set]
  rfl

theorem setParam_stores (o : ObjId) (k : String) (v : JsVal) :
    Stores (setParam P o k v) o [(k, v)] P.MESIBO_RESULT_OK := fun _ hw => setParam_plain (hw k) v

theorem ctoJUint_stores (o : ObjId) (k : String) (x : UInt64) :
    Stores (ctoJUint P o k x) o [(k, .ofUint32 x.toUInt32)] P.MESIBO_RESULT_OK := setParam_stores o k _

theorem ctoJString_stores (o : ObjId) (k : String) {s : Option CString} {v : JsVal} (hs : jsString P s = some v) :
    Stores (ctoJString P o k s) o [(k, v)] P.MESIBO_RESULT_OK := by
  cases s with
  | none => cases hs; exact setParam_stores o k _
  | some s =>
    obtain ⟨x, hx, rfl⟩ := Option.map_eq_some_iff.mp hs
    rw [ctoJString, hx]
    exact setParam_stores o k _

/-- What `CtoJ_MessageParams` stores. -/
def paramSlots (p : MessageParams) (to_ from_ : JsVal) : List (String × JsVal) :=
  [(MESSAGE_AID, .ofUint32 p.aid.toUInt32), (MESSAGE_ID, .ofUint32 p.id.toUInt32),
   (MESSAGE_REFID, .ofUint32 p.refid.toUInt32), (MESSAGE_GROUPID, .ofUint32 p.groupid.toUInt32),
   (MESSAGE_FLAGS, .ofUint32 p.flags.toUInt32), (MESSAGE_TYPE, .ofUint32 p.type.toUInt32),
   (MESSAGE_EXPIRY, .ofUint32 p.expiry.toUInt32), (MESSAGE_TO_ONLINE, .ofUint32 p.toOnline.toUInt32),
   (MESSAGE_TO, to_), (MESSAGE_FROM, from_)]

theorem paramSlots_keys (p : MessageParams) (to_ from_ : JsVal) :
    (paramSlots p to_ from_).map (·.1) = paramKeys := rfl

theorem paramKeys_nodup : paramKeys.Nodup := by decide

/-- In the isolate that made it a template gives a new object. -/
theorem newFromStatic_own {t : ObjectTemplate} {isolate : IsolateId} (h : t.isolate = isolate) (w : World) :
    newFromStatic isolate (some t) w = .ok (w.nextObj, (w.newInstance t).2) := by
  unfold newFromStatic
  dsimp only
  rw [if_neg (not_not.mpr h)]
  rfl

/-- In another one it ends the process. -/
theorem newFromStatic_foreign {t : ObjectTemplate} {isolate : IsolateId} (h : t.isolate ≠ isolate) (w : World) :
    newFromStatic isolate (some t) w = .error .wrongIsolate := by
  unfold newFromStatic
  dsimp only
  rw [if_pos h]
  rfl

theorem newFromStatic_ok {isolate : IsolateId} {t : Option ObjectTemplate} {w u : World} {o : ObjId}
    (h : newFromStatic isolate t w = .ok (o, u)) :
    ∃ x, t = some x ∧ x.isolate = isolate ∧ o = w.nextObj ∧ u = (w.newInstance x).2 := by
  cases t with
  | none => cases h
  | some x =>
    by_cases hi : x.isolate = isolate
    · cases (newFromStatic_own hi w).symm.trans h
      exact ⟨x, rfl, hi, rfl, rfl⟩
    · cases (newFromStatic_foreign hi w).symm.trans h

theorem ctoJMessageParams_eq {p : MessageParams} {w : World} {t : ObjectTemplate} {to_ from_ : JsVal}
    (ht : w.statics.messageTemplate = some t) (hto : jsString P p.to_ = some to_)
    (hfrom : jsString P p.from_ = some from_) : ctoJMessageParams P t.isolate p w =
      .ok (w.nextObj, (w.newInstance t).2.putData w.nextObj (paramSlots p to_ from_)) := by
  have hnew : newFromStatic t.isolate w.statics.messageTemplate w = .ok (w.nextObj, (w.newInstance t).2) := by
    rw [ht, newFromStatic_own rfl]
  have plain : ∀ k, (w.newInstance t).2.Plain w.nextObj k := fun k => ⟨_, World.newInstance_plain w t k⟩
  have uint := fun k x => ctoJUint_stores (P := P) w.nextObj k x
  rw [ctoJMessageParams, get_bind, bind_eq hnew]
  refine (?_ : Stores _ w.nextObj (paramSlots p to_ from_) w.nextObj) _ plain
  exact .cons (uint _ _) (.cons (uint _ _) (.cons (uint _ _) (.cons (uint _ _) (.cons (uint _ _) (.cons (uint _ _)
    (.cons (uint _ _) (.cons (uint _ _) (.cons (ctoJString_stores _ _ hto) (.cons (ctoJString_stores _ _ hfrom)
      (.pure _))))))))))

end MesiboV8
