/-
  MesiboV8.MessageFlags — sequences of calls to the `enable*` callables of a message.

  Each call with `true` or-s its bits into a word it reads through `JtoC_ParamUint` and
  writes back cut to 32 bits (`orInto`). The cut loses nothing the next read would see, and
  a word the reader rejects reads as all ones from then on, so for any value the calls
  combine like their bits do (`orInto_orInto`): they commute and are idempotent
  (`enable_commutes`).
-/

import MesiboV8.IntegerProperties
import MesiboV8.Lib.Runs

namespace MesiboV8

open Lib.Bytes Lib.Effects Lib.Runs Act

variable {P : Platform}

/-! ## Calls -/

/-- The callables that share `EnableMessageProperty`. -/
inductive Enable where
  | readReceipt
  | deliveryReceipt
  | presence
  | ifOnline
  deriving DecidableEq, Repr

namespace Enable

def callback (P : Platform) : Enable → CallInfo → Act JsVal
  | readReceipt => enableReadReceiptCallback P
  | deliveryReceipt => enableDeliveryReceiptCallback P
  | presence => enablePresenceCallback P
  | ifOnline => sendIfOnlineCallback P

def property : Enable → String
  | ifOnline => MESSAGE_TO_ONLINE
  | _ => MESSAGE_FLAGS

def value : Enable → UInt64
  | readReceipt => MESIBO_FLAG_READRECEIPT
  | deliveryReceipt => MESIBO_FLAG_DELIVERYRECEIPT
  | presence => MESIBO_FLAG_PRESENCE
  | ifOnline => 1

theorem callback_eq (P : Platform) (e : Enable) : e.callback P = enableCallback P e.property e.value := by
  cases e <;> rfl

end Enable

/-- The calls a script makes, whatever they return. -/
def enableCalls (P : Platform) : List (Enable × CallInfo) → Act Unit
  | [] => pure ()
  | (e, info) :: cs => do
    let _ ← e.callback P info
    enableCalls P cs

/-- What the calls with `true` are of. -/
def enabled (cs : List (Enable × CallInfo)) : List Enable :=
  cs.filterMap fun c => if c.2.arg 0 = .bool true then some c.1 else none

/-- The values the callables `es` or into the word of `k`. -/
def valuesOf (k : String) (es : List Enable) : List UInt64 := (es.filter (·.property = k)).map (·.value)

/-- Their bits together. -/
def bitsOf (k : String) (es : List Enable) : UInt32 := ((valuesOf k es).foldr (· ||| ·) 0).toUInt32

/-- The message `o` in `w'` is that in `w` after calls that enabled `es`. -/
structure Enabled (o : ObjId) (es : List Enable) (w w' : World) : Prop where
  flags : ∀ v, w.heap o MESSAGE_FLAGS = .data v → v = .null ∨ v.isUint32 → (∃ e ∈ es, e.property = MESSAGE_FLAGS) →
    w'.heap o MESSAGE_FLAGS = .data (.ofUint32 (v.uint32Value ||| bitsOf MESSAGE_FLAGS es))
  toOnline : ∀ v, w.heap o MESSAGE_TO_ONLINE = .data v → v = .null ∨ v.isUint32 → .ifOnline ∈ es →
    w'.heap o MESSAGE_TO_ONLINE = .data (.ofUint32 (v.uint32Value ||| 1))
  untouched : ∀ k, (∀ e ∈ es, e.property ≠ k) → w'.heap o k = w.heap o k
  others : ∀ p, p ≠ o → w'.heap p = w.heap p
  rest : w' = { w with heap := w'.heap }

/-! ## A word -/

/-- `param_value | value`, read and written back. -/
def orInto (v : JsVal) (value : UInt64) : JsVal := .ofUint32 (uintParam v ||| value).toUInt32

theorem orInto_orInto (v : JsVal) (x y : UInt64) : orInto (orInto v x) y = orInto v (x ||| y) := by
  rw [orInto, orInto, uintParam_ofUint32, orInto, UInt64.toUInt32_or, UInt32.toUInt32_toUInt64, ← UInt64.toUInt32_or,
    UInt64.or_assoc]

instance : RightCommutative orInto where
  right_comm v x y := by rw [orInto_orInto, orInto_orInto, UInt64.or_comm]

theorem orInto_idem (v : JsVal) (x : UInt64) : orInto (orInto v x) x = orInto v x := by
  rw [orInto_orInto, UInt64.or_self]

/-- Or-ing in one value after the other is or-ing in all of them. -/
theorem foldl_orInto {l : List UInt64} (h : l ≠ []) (v : JsVal) : l.foldl orInto v = orInto v (l.foldr (· ||| ·) 0) := by
  induction l generalizing v with
  | nil => exact absurd rfl h
  | cons x l ih =>
    by_cases hl : l = []
    · subst hl
      rw [List.foldl_cons, List.foldl_nil, List.foldr_cons, List.foldr_nil, UInt64.or_zero]
    · rw [List.foldl_cons, ih hl, orInto_orInto, List.foldr_cons]

theorem orInto_uint32 {v : JsVal} (h : v = .null ∨ v.isUint32) (x : UInt64) :
    orInto v x = .ofUint32 (v.uint32Value ||| x.toUInt32) := by
  rw [orInto, UInt64.toUInt32_or]
  rcases h with rfl | h
  · rfl
  · obtain ⟨y, rfl⟩ := isUint32_iff.mp h
    rw [uintParam_ofUint32, UInt32.toUInt32_toUInt64]
    simp [JsVal.ofUint32, JsVal.uint32Value]

theorem valuesOf_nil {k : String} {es : List Enable} (h : ∀ e ∈ es, e.property ≠ k) : valuesOf k es = [] := by
  rw [valuesOf, List.map_eq_nil_iff, List.filter_eq_nil_iff]
  intro e he
  simpa using h e he

theorem valuesOf_ne_nil {k : String} {es : List Enable} (h : ∃ e ∈ es, e.property = k) : valuesOf k es ≠ [] := by
  obtain ⟨e, he, hk⟩ := h
  refine List.ne_nil_of_mem (a := e.value) (List.mem_map_of_mem ?_)
  simp [he, hk]

/-- Only `sendIfOnline` writes `toOnline`, and only 1. -/
theorem valuesOf_toOnline {es : List Enable} {x : UInt64} (hx : x ∈ valuesOf MESSAGE_TO_ONLINE es) : x = 1 := by
  obtain ⟨e, he, rfl⟩ := List.mem_map.mp hx
  have hp := (List.mem_filter.mp he).2
  cases e with
  | ifOnline => rfl
  | _ => exact absurd hp (by decide)

/-! ## Runs -/

/-- The world with the values of `es` or-ed into the words of `o`. -/
def World.enabling (w : World) (o : ObjId) (es : List Enable) : World :=
  { w with heap := Function.update w.heap o fun k =>
      match w.heap o k with
      | .data v => .data ((valuesOf k es).foldl orInto v)
      | s => s }

section Run

variable {o : ObjId} {w : World}

theorem enabling_heap {k : String} {v : JsVal} (h : w.heap o k = .data v) (es : List Enable) :
    (w.enabling o es).heap o k = .data ((valuesOf k es).foldl orInto v) := by
  simp [World.enabling, h]

theorem enabling_untouched {k : String} {es : List Enable} (h : ∀ e ∈ es, e.property ≠ k) :
    (w.enabling o es).heap o k = w.heap o k := by
  simp only [World.enabling, Function.update_self, valuesOf_nil h, List.foldl_nil]
  cases w.heap o k <;> rfl

theorem enabling_nil (w : World) (o : ObjId) : w.enabling o [] = w := by
  have hheap : (w.enabling o []).heap = w.heap := by
    funext p
    by_cases hp : p = o
    · subst hp
      funext k
      exact enabling_untouched nofun
    · exact Function.update_of_ne hp _ _
  calc w.enabling o [] = { w with heap := (w.enabling o []).heap } := rfl
    _ = w := by rw [hheap]

/-- One callable first, then the rest. -/
theorem enabling_cons {e : Enable} {v : JsVal} (h : w.heap o e.property = .data v) (es : List Enable) :
    (w.putSlot o e.property (.data (orInto v e.value))).enabling o es = w.enabling o (e :: es) := by
  have hheap : ((w.putSlot o e.property (.data (orInto v e.value))).enabling o es).heap =
      (w.enabling o (e :: es)).heap := by
    funext p
    by_cases hp : p = o
    · subst hp
      funext k
      by_cases hk : k = e.property
      · subst hk
        have hput : (w.putSlot p e.property (.data (orInto v e.value))).heap p e.property =
            .data (orInto v e.value) := by simp [World.putSlot]
        have hvals : valuesOf e.property (e :: es) = e.value :: valuesOf e.property es := by simp [valuesOf]
        rw [enabling_heap hput, enabling_heap h, hvals, List.foldl_cons]
      · have hvals : valuesOf k (e :: es) = valuesOf k es := by simp [valuesOf, Ne.symm hk]
        simp only [World.enabling, Function.update_self, hvals, World.heap_putSlot_ne w _ (.inr hk)]
    · simp [World.enabling, World.putSlot, Function.update_of_ne hp]
  calc (w.putSlot o e.property (.data (orInto v e.value))).enabling o es
      = { w with heap := ((w.putSlot o e.property (.data (orInto v e.value))).enabling o es).heap } := rfl
    _ = w.enabling o (e :: es) := by rw [hheap]; rfl

/-- What a sequence of calls makes of the world. -/
theorem enableCalls_eq {cs : List (Enable × CallInfo)} (hf : w.Plain o MESSAGE_FLAGS) (ht : w.Plain o MESSAGE_TO_ONLINE)
    (hcs : ∀ c ∈ cs, c.2.this = o ∧ (c.2.arg 0).isBoolean) :
    enableCalls P cs w = .ok ((), w.enabling o (enabled cs)) := by
  induction cs generalizing w with
  | nil => rw [show enabled [] = [] from rfl, enabling_nil]; rfl
  | cons c cs ih =>
    obtain ⟨e, info⟩ := c
    obtain ⟨hthis, hbool⟩ := hcs (e, info) (by simp)
    have hrest : ∀ c ∈ cs, c.2.this = o ∧ (c.2.arg 0).isBoolean := fun c hc => hcs c (by simp [hc])
    dsimp only at hthis hbool
    subst hthis
    by_cases htrue : info.arg 0 = .bool true
    · have hplain : w.Plain info.this e.property := by cases e <;> assumption
      obtain ⟨v, hv⟩ := hplain
      obtain ⟨r, hr⟩ := enableCallback_true (P := P) e.property e.value hv htrue
      rw [enableCalls, Enable.callback_eq, bind_eq hr, ih (hf.putSlot _ _ _) (ht.putSlot _ _ _) hrest]
      have hen : enabled ((e, info) :: cs) = e :: enabled cs := by simp [enabled, htrue]
      rw [hen, ← enabling_cons hv]
      rfl
    · have hskip : ∃ r, enableCallback P e.property e.value info w = .ok (r, w) := by
        refine ⟨_, bind_eq (a := P.MESIBO_RESULT_OK) (t := w) ?_⟩
        rw [enableMessageProperty, hbool, if_neg htrue]
        rfl
      obtain ⟨r, hr⟩ := hskip
      have hen : enabled ((e, info) :: cs) = enabled cs := by simp [enabled, htrue]
      rw [enableCalls, Enable.callback_eq, bind_eq hr, ih hf ht hrest, hen]

/-- It depends on which callables were enabled, not on when or how often. -/
theorem enabling_congr {es fs : List Enable} (h : ∀ e, e ∈ es ↔ e ∈ fs) : w.enabling o es = w.enabling o fs := by
  have hfold : ∀ k v, (valuesOf k es).foldl orInto v = (valuesOf k fs).foldl orInto v := fun k v =>
    foldl_eq_of_mem_iff orInto_idem (by simp [valuesOf, h]) v
  simp only [World.enabling, hfold]

theorem enabling_enabled (w : World) (o : ObjId) (es : List Enable) : Enabled o es w (w.enabling o es) where
  flags := fun v hv hv' he => by
    rw [enabling_heap hv, foldl_orInto (valuesOf_ne_nil he), orInto_uint32 hv', bitsOf]
  toOnline := fun v hv hv' he => by
    have hne := valuesOf_ne_nil (k := MESSAGE_TO_ONLINE) ⟨_, he, rfl⟩
    have hset : (valuesOf MESSAGE_TO_ONLINE es).foldl orInto v = [1].foldl orInto v := by
      refine foldl_eq_of_mem_iff orInto_idem (fun x => ?_) v
      rw [List.mem_singleton]
      refine ⟨valuesOf_toOnline, fun hx => ?_⟩
      obtain ⟨y, hy⟩ := List.exists_mem_of_ne_nil _ hne
      rw [hx, ← valuesOf_toOnline hy]
      exact hy
    rw [enabling_heap hv, hset, List.foldl_cons, List.foldl_nil, orInto_uint32 hv']
    rfl
  untouched := fun k hk => enabling_untouched hk
  others := fun p hp => Function.update_of_ne hp _ _
  rest := rfl

end Run

/-- Two sequences of calls with booleans that enable the same callables leave the same world,
    with the bits of these in the two words and nothing else changed. -/
theorem enable_commutes (P : Platform) {o : ObjId} {w : World} {cs ds : List (Enable × CallInfo)}
    (hf : w.Plain o MESSAGE_FLAGS) (ht : w.Plain o MESSAGE_TO_ONLINE)
    (hcs : ∀ c ∈ cs, c.2.this = o ∧ (c.2.arg 0).isBoolean) (hds : ∀ c ∈ ds, c.2.this = o ∧ (c.2.arg 0).isBoolean)
    (hsame : ∀ e, e ∈ enabled cs ↔ e ∈ enabled ds) :
    ∃ w', enableCalls P cs w = .ok ((), w') ∧ enableCalls P ds w = .ok ((), w') ∧ Enabled o (enabled cs) w w' := by
  refine ⟨w.enabling o (enabled cs), enableCalls_eq hf ht hcs, ?_, enabling_enabled w o _⟩
  rw [enableCalls_eq hf ht hds, enabling_congr hsame]

/-- A call of an `enable*` callable of object 0. -/
def CallInfo.enable (b : Bool) : CallInfo := ⟨0, .undefined, [.bool b], false, 0⟩

theorem enable_commutes_two : ∃ w',
    enableCalls .reference [(.presence, .enable true), (.ifOnline, .enable true)] .empty = .ok ((), w') ∧
    enableCalls .reference [(.ifOnline, .enable true), (.readReceipt, .enable false), (.presence, .enable true),
      (.presence, .enable true)] .empty = .ok ((), w') ∧ Enabled 0 [.presence, .ifOnline] .empty w' := by
  refine enable_commutes .reference ⟨_, rfl⟩ ⟨_, rfl⟩ (by decide) (by decide) fun e => ?_
  cases e <;> decide

end MesiboV8
