/-
  MesiboV8.HttpAccumulation — the body a fresh `http_context_t` gathers from its `ondata` calls.

  A call of sane size is one of three: a chunk that fits is appended, one that does not is
  refused and changes nothing, and anything else is passed over (`dataCall_accumulates`). So
  over any run the buffer is the chunks accepted so far, one after the other, and zeros, and
  nothing else of the context moves (`body_accumulates`).
-/

import MesiboV8.HttpBounds

namespace MesiboV8

open Lib.Bytes Lib.Effects Act

variable {P : Platform}

/-! ## Chunks -/

/-- The call delivers a piece of the body. -/
structure DataCall.Body (P : Platform) (c : DataCall) : Prop where
  state : P.MODULE_HTTP_STATE_RESPBODY = c.state
  buffer : c.buffer.isSome
  size : 0 < c.size

/-- The bytes it delivers. -/
def DataCall.chunk (c : DataCall) : List UInt8 :=
  match c.buffer with
  | some src => src.read c.size.toInt.toNat
  | none => []

/-- There is room for the call's chunk behind `chunks`. -/
def DataCall.Room (chunks : List (List UInt8)) (c : DataCall) : Prop :=
  chunks.flatten.length + c.size.toInt ≤ HTTP_BUFFER_LEN

instance (P : Platform) (c : DataCall) : Decidable (c.Body P) :=
  decidable_of_iff (P.MODULE_HTTP_STATE_RESPBODY = c.state ∧ c.buffer.isSome ∧ 0 < c.size)
    ⟨fun ⟨h₁, h₂, h₃⟩ => ⟨h₁, h₂, h₃⟩, fun h => ⟨h.state, h.buffer, h.size⟩⟩

instance (chunks : List (List UInt8)) (c : DataCall) : Decidable (c.Room chunks) :=
  inferInstanceAs (Decidable (_ ≤ _))

/-- The chunks accepted after the call. -/
def DataCall.accept (P : Platform) (chunks : List (List UInt8)) (c : DataCall) : List (List UInt8) :=
  if c.Body P ∧ c.Room chunks then chunks ++ [c.chunk] else chunks

/-- `b` is `b₀` with `chunks` gathered in its buffer, and zeros after them. -/
structure Accumulated (b₀ : HttpContext) (chunks : List (List UInt8)) (b : HttpContext) : Prop where
  datalen : b.datalen.toInt = chunks.flatten.length
  bytes : b.buffer.bytes.take chunks.flatten.length = chunks.flatten
  zeros : ∀ i : Fin HTTP_BUFFER_LEN, chunks.flatten.length ≤ i.val → b.buffer i = 0
  rest : b = { b₀ with buffer := b.buffer, datalen := b.datalen }

/-- The context at `a` holds `chunks`, and each of the calls returns, adds its chunk if that
    is accepted, and refuses, with everything as it was, exactly a chunk there is no room for. -/
def Accumulates (P : Platform) (a : Addr) (b₀ : HttpContext) : World → List (List UInt8) → List DataCall → Prop
  | w, chunks, [] => ∃ b, w.https a = some b ∧ Accumulated b₀ chunks b
  | w, chunks, c :: cs => (∃ b, w.https a = some b ∧ Accumulated b₀ chunks b) ∧
      ∃ rv w', dataCall P a w c = .ok (rv, w') ∧ (rv = P.MESIBO_RESULT_FAIL ↔ c.Body P ∧ ¬c.Room chunks) ∧
        (rv = P.MESIBO_RESULT_FAIL → w' = w) ∧ Accumulates P a b₀ w' (c.accept P chunks) cs

/-! ## A call -/

section Call

variable {a : Addr} {b₀ b : HttpContext} {chunks : List (List UInt8)} {c : DataCall} {w : World}

theorem accumulated_iff : Accumulated b₀ chunks b ↔ b.datalen.toInt = chunks.flatten.length ∧
    Holds b.buffer chunks.flatten ∧ b = { b₀ with buffer := b.buffer, datalen := b.datalen } := by
  rw [holds_iff_take]
  constructor
  · intro h
    exact ⟨h.datalen, ⟨h.bytes, h.zeros⟩, h.rest⟩
  · intro h
    obtain ⟨hd, ⟨hb, hz⟩, hr⟩ := h
    exact ⟨hd, hb, hz, hr⟩

theorem DataCall.chunk_eq {src : Mem} (hbuf : c.buffer = some src) : c.chunk = src.read c.size.toInt.toNat := by
  rw [DataCall.chunk, hbuf]

/-- A call that brings no chunk passes by. -/
theorem dataCall_other (hb : w.https a = some b) (hp : 0 ≤ c.progress) (h0 : 0 ≤ c.size) (hbody : ¬c.Body P) :
    dataCall P a w c = .ok (P.MESIBO_RESULT_OK, w) := by
  rw [dataCall, ondata_eq hb, if_neg (Int64.not_lt.mpr hp)]
  have hput : { w with https := Function.update w.https a (some b) } = w := by
    rw [← hb, Function.update_eq_self]
  by_cases hs : P.MODULE_HTTP_STATE_RESPBODY ≠ c.state
  · rw [if_pos hs]
  · rw [if_neg hs]
    cases hbuf : c.buffer with
    | none => exact congrArg (fun u => Except.ok (P.MESIBO_RESULT_OK, u)) hput
    | some src =>
      have hz : c.size = 0 := by
        by_contra hne
        refine hbody ⟨not_not.mp hs, by rw [hbuf]; rfl, ?_⟩
        exact Int64.lt_of_le_of_ne h0 (Ne.symm hne)
      rw [hz, storeBody_empty]
      exact congrArg (fun u => Except.ok (P.MESIBO_RESULT_OK, u)) hput

theorem dataCall_stores (hb : w.https a = some b) (hp : 0 ≤ c.progress) (hbody : c.Body P) {src : Mem}
    (hbuf : c.buffer = some src) {b' : HttpContext} (hs : storeBody b (some src) c.size = .ok (some b')) :
    dataCall P a w c = .ok (P.MESIBO_RESULT_OK, { w with https := Function.update w.https a (some b') }) := by
  rw [dataCall, ondata_eq hb, if_neg (Int64.not_lt.mpr hp), if_neg (not_not.mpr hbody.state), hbuf, hs]

theorem dataCall_refuses (hb : w.https a = some b) (hp : 0 ≤ c.progress) (hbody : c.Body P) {src : Mem}
    (hbuf : c.buffer = some src) (hs : storeBody b (some src) c.size = .ok none) :
    dataCall P a w c = .ok (P.MESIBO_RESULT_FAIL, w) := by
  rw [dataCall, ondata_eq hb, if_neg (Int64.not_lt.mpr hp), if_neg (not_not.mpr hbody.state), hbuf, hs]

theorem dataCall_accumulates (hb : w.https a = some b) (h : Accumulated b₀ chunks b) (hp : 0 ≤ c.progress)
    (h0 : 0 ≤ c.size) (hlt : c.size.toInt < 2 ^ 62) :
    ∃ rv w' b', dataCall P a w c = .ok (rv, w') ∧ (rv = P.MESIBO_RESULT_FAIL ↔ c.Body P ∧ ¬c.Room chunks) ∧
      (rv = P.MESIBO_RESULT_FAIL → w' = w) ∧ w'.https a = some b' ∧ Accumulated b₀ (c.accept P chunks) b' := by
  obtain ⟨hd, hh, hr⟩ := accumulated_iff.mp h
  have hfits := hh.fits
  have h0' : 0 ≤ c.size.toInt := by simpa using Int64.le_iff_toInt_le.mp h0
  by_cases hbody : c.Body P
  · obtain ⟨src, hbuf⟩ := Option.isSome_iff_exists.mp hbody.buffer
    by_cases hc : c.Room chunks
    · have hfit : chunks.flatten.length + c.size.toInt ≤ HTTP_BUFFER_LEN := hc
      obtain ⟨d, hd', hst⟩ := storeBody_fits src hd h0' hfit
      rw [DataCall.accept, if_pos ⟨hbody, hc⟩]
      refine ⟨_, _, _, dataCall_stores hb hp hbody hbuf hst, iff_of_false P.ok_ne_fail fun x => x.2 hc,
        fun e => absurd e P.ok_ne_fail, Function.update_self _ _ _, ?_⟩
      rw [accumulated_iff, List.flatten_append, List.flatten_singleton, DataCall.chunk_eq hbuf]
      refine ⟨?_, hh.append src (by omega), by rw [hr]⟩
      show d.toInt = _
      rw [List.length_append, Mem.read_length]
      omega
    · have hfull : ¬chunks.flatten.length + c.size.toInt ≤ HTTP_BUFFER_LEN := hc
      have hlen : HTTP_BUFFER_LEN = 65536 := rfl
      have hst : storeBody b (some src) c.size = .ok none := storeBody_refused hd hfits (by omega) (by omega)
      rw [DataCall.accept, if_neg fun x => hc x.2]
      exact ⟨_, w, b, dataCall_refuses hb hp hbody hbuf hst, iff_of_true rfl ⟨hbody, hc⟩, fun _ => rfl, hb, h⟩
  · refine ⟨_, w, b, dataCall_other hb hp h0 hbody, iff_of_false P.ok_ne_fail fun x => hbody x.1, fun _ => rfl, hb, ?_⟩
    rw [DataCall.accept, if_neg fun x => hbody x.1]
    exact h

end Call

/-! ## Runs -/

/-- Up to any point, a context gathers the chunks there is room for. -/
theorem dataCalls_accumulate {a : Addr} {b₀ b : HttpContext} {w : World} {chunks : List (List UInt8)}
    (hb : w.https a = some b) (h : Accumulated b₀ chunks b) {cs : List DataCall}
    (hcs : ∀ c ∈ cs, 0 ≤ c.progress ∧ 0 ≤ c.size ∧ c.size.toInt < 2 ^ 62) : Accumulates P a b₀ w chunks cs := by
  induction cs generalizing w b chunks with
  | nil => exact ⟨b, hb, h⟩
  | cons c cs ih =>
    obtain ⟨hp, h0, hlt⟩ := hcs c (by simp)
    obtain ⟨rv, w', b', hw', hrv, hsame, hb', h'⟩ := dataCall_accumulates (P := P) hb h hp h0 hlt
    exact ⟨⟨b, hb, h⟩, rv, w', hw', hrv, hsame, ih hb' h' fun x hx => hcs x (by simp [hx])⟩

/-- A fresh context gathers the body. -/
theorem body_accumulates {jsObj : ObjId} {jsCb jsCbdata : JsVal} {mod : ModId} {w₀ w : World} {a : Addr}
    (hfresh : jtoCHttpCallbackContext jsObj jsCb jsCbdata mod w₀ = .ok (some a, w)) {cs : List DataCall}
    (hcs : ∀ c ∈ cs, 0 ≤ c.progress ∧ 0 ≤ c.size ∧ c.size.toInt < 2 ^ 62) :
    Accumulates P a (freshContext mod jsObj jsCb jsCbdata) w [] cs := by
  have hw : w.https a = some (freshContext mod jsObj jsCb jsCbdata) := by
    rw [jtoCHttpCallbackContext] at hfresh
    split at hfresh
    · cases hfresh
    · cases hfresh
      exact Function.update_self _ _ _
  have h₀ : Accumulated (freshContext mod jsObj jsCb jsCbdata) [] (freshContext mod jsObj jsCb jsCbdata) :=
    accumulated_iff.mpr ⟨rfl, holds_zero HTTP_BUFFER_LEN, rfl⟩
  exact dataCalls_accumulate hw h₀ hcs

/-- Two pieces and one there is no room for. -/
theorem body_accumulates_bytes : ∃ w, jtoCHttpCallbackContext 0 (.func 1) .null 0 .empty = .ok (some 0, w) ∧
    Accumulates .reference 0 (freshContext 0 0 (.func 1) .null) w [] [.byte 1, .byte 0x10000, .byte 1] := by
  obtain ⟨w, hw⟩ : ∃ w, jtoCHttpCallbackContext 0 (.func 1) .null 0 .empty = .ok (some 0, w) := ⟨_, rfl⟩
  exact ⟨w, hw, body_accumulates hw (by decide)⟩

end MesiboV8
