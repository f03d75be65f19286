/-
  MesiboV8.MessageCodec — `CtoJ_MessageParams` and `JtoC_MessageParams` are inverse, up to
  the 32 bits a property can hold (`message_params_round_trip`).

  The integers meet in `uintParam_ofUint32`, the strings in `jsString_valid` and
  `jsString_stringParam`; that each name is read where it was written follows from the two
  lists being one (`paramSlots_eq_zip`).
-/

import MesiboV8.Params
import Mathlib.Data.List.Forall2

namespace MesiboV8

open Lib.Bytes Lib.Utf Lib.Effects Act

variable {P : Platform}

/-! ## Strings -/

def ValidUtf8 (s : CString) : Prop := ∃ cs : List Char, s.bytes = utf8 cs

/-- A null property, or a well-formed string without NULs. -/
def StringSlot (v : JsVal) : Prop := v = .null ∨ ∃ cs : List Char, '\x00' ∉ cs ∧ v = .str (utf16 cs)

theorem jsString_valid (hU : P.Utf8Inverse) {s : Option CString} (hs : ∀ x ∈ s, ValidUtf8 x) :
    ∃ v, jsString P s = some v ∧ ∀ w, stringParam P v w = s := by
  cases s with
  | none => exact ⟨.null, rfl, fun w => rfl⟩
  | some s =>
    obtain ⟨cs, hcs⟩ := hs s rfl
    refine ⟨.str (utf16 cs), by rw [jsString, hcs, hU.decode]; rfl, fun w => ?_⟩
    simp only [stringParam, JsVal.isNullOrUndefined, Platform.toUtf8, Platform.toStr, Option.map_some, hU.encode]
    rw [← hcs, CString.ofBytes_self]
    rfl

theorem jsString_stringParam (hU : P.Utf8Inverse) {v : JsVal} (hv : StringSlot v) (w : World) :
    jsString P (stringParam P v w) = some v := by
  rcases hv with rfl | ⟨cs, hcs, rfl⟩
  · rfl
  · simp only [stringParam, JsVal.isNullOrUndefined, Platform.toUtf8, Platform.toStr, Option.map_some, hU.encode]
    show (P.newFromUtf8 (cstr (utf8 cs))).map JsVal.str = _
    rw [cstr_eq_self fun h => hcs (zero_mem_utf8 h), hU.decode]
    rfl

/-! ## Both ways -/

theorem paramSlots_eq_zip (p : MessageParams) (to_ from_ : JsVal) : paramSlots p to_ from_ =
    intKeys.zip (p.ints.map fun x => .ofUint32 x.toUInt32) ++ [(MESSAGE_TO, to_), (MESSAGE_FROM, from_)] := rfl

/-- The object made by `CtoJ_MessageParams` holds what was stored. -/
theorem putData_paramSlots {w : World} {o : ObjId} {p : MessageParams} {to_ from_ : JsVal} {k : String} {v : JsVal}
    (h : (k, v) ∈ paramSlots p to_ from_) : (w.putData o (paramSlots p to_ from_)).heap o k = .data v :=
  World.putData_heap_mem (by rw [paramSlots_keys]; exact paramKeys_nodup) h

theorem putData_int {w : World} {o : ObjId} {p : MessageParams} {to_ from_ : JsVal} {k : String} (hk : k ∈ intKeys) :
    ∃ v, (w.putData o (paramSlots p to_ from_)).heap o k = .data v ∧ v.isUint32 := by
  have hz : intKeys = (intKeys.zip (p.ints.map fun x => JsVal.ofUint32 x.toUInt32)).map (·.1) := rfl
  rw [hz] at hk
  obtain ⟨⟨l, v⟩, hv, rfl⟩ := List.mem_map.mp hk
  refine ⟨v, putData_paramSlots (by rw [paramSlots_eq_zip]; exact List.mem_append_left _ hv), ?_⟩
  obtain ⟨x, _, rfl⟩ := List.mem_map.mp (List.of_mem_zip hv).2
  exact isUint32_iff.mpr ⟨_, rfl⟩

theorem c_to_js_to_c (hU : P.Utf8Inverse) {w : World} {t : ObjectTemplate} (ht : w.statics.messageTemplate = some t)
    {p : MessageParams} (hto : ∀ s ∈ p.to_, ValidUtf8 s) (hfrom : ∀ s ∈ p.from_, ValidUtf8 s) :
    ∃ o u q v, ctoJMessageParams P t.isolate p w = .ok (o, u) ∧ jtoCMessageParams P o u = .ok (q, v) ∧
      q.ints.map (·.toNat) = p.ints.map (·.toNat % 2 ^ 32) ∧ q.to_ = p.to_ ∧ q.from_ = p.from_ := by
  obtain ⟨vt, hvt, htv⟩ := jsString_valid hU hto
  obtain ⟨vf, hvf, hfv⟩ := jsString_valid hU hfrom
  have hc := ctoJMessageParams_eq ht hvt hvf
  generalize hu : (w.newInstance t).2.putData w.nextObj (paramSlots p vt vf) = u at hc
  have hget : ∀ k v, (k, v) ∈ paramSlots p vt vf → u.get w.nextObj k = some v := fun k v h =>
    World.get_of_data (hu ▸ putData_paramSlots h)
  obtain ⟨⟨q, v⟩, hq⟩ := ((jtoCMessageParams_reads w.nextObj).returns u).mpr fun k hk => by
    rw [← paramSlots_keys p vt vf] at hk
    obtain ⟨⟨l, x⟩, hx, rfl⟩ := List.mem_map.mp hk
    simp [hget l x hx]
  obtain ⟨hints, ⟨x, _, hx, _, hqt⟩, y, _, hy, _, hqf⟩ := jtoCMessageParams_ok hq
  refine ⟨_, u, q, v, hc, hq, ?_, ?_, ?_⟩
  · rw [hints, World.intParams, List.map_map, ← List.forall₂_eq_eq_eq, List.forall₂_map_left_iff, List.forall₂_map_right_iff,
      List.forall₂_iff_zip]
    refine ⟨rfl, fun {k y} h => ?_⟩
    have hk : (k, JsVal.ofUint32 y.toUInt32) ∈ paramSlots p vt vf := by
      rw [paramSlots_eq_zip, List.zip_map_right]
      exact List.mem_append_left _ (List.mem_map.mpr ⟨_, h, rfl⟩)
    simp [hget _ _ hk, uintParam_ofUint32]
  · rw [hget MESSAGE_TO vt (by simp [paramSlots])] at hx
    cases hx
    rw [hqt, htv]
  · rw [hget MESSAGE_FROM vf (by simp [paramSlots])] at hy
    cases hy
    rw [hqf, hfv]

theorem js_to_c_to_js (hU : P.Utf8Inverse) {w : World} {t : ObjectTemplate} (ht : w.statics.messageTemplate = some t)
    {o : ObjId} (hint : ∀ k ∈ intKeys, ∃ v, w.heap o k = .data v ∧ v.isUint32)
    (hstr : ∀ k ∈ [MESSAGE_TO, MESSAGE_FROM], ∃ v, w.heap o k = .data v ∧ StringSlot v) :
    ∃ p u o' v, jtoCMessageParams P o w = .ok (p, u) ∧ ctoJMessageParams P t.isolate p u = .ok (o', v) ∧
      ∀ k ∈ paramKeys, v.heap o' k = w.heap o k := by
  obtain ⟨vt, hvt, hst⟩ := hstr MESSAGE_TO (by simp)
  obtain ⟨vf, hvf, hsf⟩ := hstr MESSAGE_FROM (by simp)
  have hdata : ∀ k ∈ paramKeys, ∃ v, w.heap o k = .data v := by
    intro k hk
    rcases List.mem_append.mp hk with hk | hk
    · exact (hint k hk).imp fun _ => And.left
    · exact (hstr k hk).imp fun _ => And.left
  obtain ⟨⟨p, u⟩, hp⟩ := ((jtoCMessageParams_reads o).returns w).mpr fun k hk => by
    obtain ⟨v, hv⟩ := hdata k hk
    simp [World.get_of_data hv]
  obtain ⟨hints, ⟨_, x, hx, _, hpt⟩, _, y, hy, _, hpf⟩ := jtoCMessageParams_ok hp
  cases (World.get_of_data hvt).symm.trans hx
  cases (World.get_of_data hvf).symm.trans hy
  have htu : u.statics.messageTemplate = some t := by
    rw [(jtoCMessageParams_reads o).quiet hp]; exact ht
  have hc := ctoJMessageParams_eq htu (by rw [hpt]; exact jsString_stringParam hU hst x)
    (by rw [hpf]; exact jsString_stringParam hU hsf y)
  refine ⟨p, u, _, _, hp, hc, fun k hk => ?_⟩
  rcases List.mem_append.mp hk with hk | hk
  · obtain ⟨v, hv, h32⟩ := hint k hk
    obtain ⟨n, rfl⟩ := isUint32_iff.mp h32
    rw [hv]
    apply putData_paramSlots
    have hz : p.ints.map (fun x => JsVal.ofUint32 x.toUInt32) =
        intKeys.map fun k => .ofUint32 (uintParam ((w.get o k).getD .undefined)).toUInt32 := by
      rw [hints, World.intParams, List.map_map]; rfl
    rw [paramSlots_eq_zip, hz, ← List.map_prod_left_eq_zip]
    refine List.mem_append_left _ (List.mem_map.mpr ⟨k, hk, ?_⟩)
    rw [World.get_of_data hv, Option.getD_some, uintParam_ofUint32, UInt32.toUInt32_toUInt64]
  · simp only [List.mem_cons, List.not_mem_nil, or_false] at hk
    rcases hk with rfl | rfl
    · rw [hvt]; exact putData_paramSlots (by simp [paramSlots])
    · rw [hvf]; exact putData_paramSlots (by simp [paramSlots])

/-- In the isolate of the message template, the parameters survive the trip through JS, integers
    modulo 2^32; a message object with uint32 and string properties survives the trip through C. -/
theorem message_params_round_trip (hU : P.Utf8Inverse) {w : World} {t : ObjectTemplate}
    (ht : w.statics.messageTemplate = some t) :
    (∀ p : MessageParams, (∀ s ∈ p.to_, ValidUtf8 s) → (∀ s ∈ p.from_, ValidUtf8 s) →
      ∃ o u q v, ctoJMessageParams P t.isolate p w = .ok (o, u) ∧ jtoCMessageParams P o u = .ok (q, v) ∧
        q.ints.map (·.toNat) = p.ints.map (·.toNat % 2 ^ 32) ∧ q.to_ = p.to_ ∧ q.from_ = p.from_) ∧
    (∀ o : ObjId, (∀ k ∈ intKeys, ∃ v, w.heap o k = .data v ∧ v.isUint32) →
      (∀ k ∈ [MESSAGE_TO, MESSAGE_FROM], ∃ v, w.heap o k = .data v ∧ StringSlot v) →
      ∃ p u o' v, jtoCMessageParams P o w = .ok (p, u) ∧ ctoJMessageParams P t.isolate p u = .ok (o', v) ∧
        ∀ k ∈ paramKeys, v.heap o' k = w.heap o k) :=
  ⟨fun _ hto hfrom => c_to_js_to_c hU ht hto hfrom, fun _ hint hstr => js_to_c_to_js hU ht hint hstr⟩

/-- A world after the first `SetCallables`. -/
def World.withTemplates : World :=
  { World.empty with statics := ⟨some (makeMessageTemplate 0 0), some (makeHttpTemplate 0 0), none⟩ }

/-- One with a message object in it. -/
def World.withMessage : World :=
  World.withTemplates.putData 0 (paramSlots ⟨1, 2, 3, 4, 5, 6, 7, 0xFFFFFFFF, none, none⟩ (.str (utf16 [])) .null)

theorem message_params_round_trip_reference :
    (∃ o u q v, ctoJMessageParams .reference 0 ⟨0x100000007, 1, 0, 0, 3, 0, 0x80000000, 0, some (.ofBytes (utf8 ['é'])), none⟩
        .withTemplates = .ok (o, u) ∧ jtoCMessageParams .reference o u = .ok (q, v) ∧
        q.ints.map (·.toNat) = [7, 1, 0, 0, 3, 0, 0x80000000, 0] ∧ q.to_ = some (.ofBytes (utf8 ['é'])) ∧
        q.from_ = none) ∧
    (∃ p u o' v, jtoCMessageParams .reference 0 .withMessage = .ok (p, u) ∧
        ctoJMessageParams .reference 0 p u = .ok (o', v) ∧ ∀ k ∈ paramKeys, v.heap o' k = World.withMessage.heap 0 k) := by
  refine ⟨?_, ?_⟩
  · exact (message_params_round_trip Platform.reference_utf8Inverse (w := .withTemplates) rfl).1 _
      (fun s hs => ⟨['é'], by cases hs; rfl⟩) (fun s hs => by cases hs)
  · refine (message_params_round_trip Platform.reference_utf8Inverse (w := .withMessage) rfl).2 0 ?_ ?_
    · exact fun k hk => putData_int hk
    · intro k hk
      simp only [List.mem_cons, List.not_mem_nil, or_false] at hk
      rcases hk with rfl | rfl
      · exact ⟨_, putData_paramSlots (by simp [paramSlots]), .inr ⟨[], by simp, rfl⟩⟩
      · exact ⟨_, putData_paramSlots (by simp [paramSlots]), .inl rfl⟩

end MesiboV8
