/-
  MesiboV8.HttpBuffer — the arithmetic of `js_mesibo_http_ondata` and of the `memcpy`s into
  an `http_context_t`, and what the two callbacks do on a live one.

  With `n` bytes in the buffer a chunk is appended when it fits (`storeBody_fits`),
  refused when it does not (`storeBody_refused`), and written out of bounds when its size
  is negative or `n + size` passes 2^63 (`storeBody_overruns`). All that is proved of a
  callback goes by `ondata_eq` and `onstatus_eq`.
-/

import MesiboV8.Http

namespace MesiboV8

open Lib.Bytes Lib.Utf Lib.Effects Act

variable {P : Platform}

/-! ## Sizes -/

theorem toNat_toUInt64 {x : Int64} (h : 0 ≤ x.toInt) : x.toUInt64.toNat = x.toInt.toNat := by
  have hx : (0 : Int64) ≤ x := Int64.le_iff_toInt_le.mpr (by simpa using h)
  rw [Int64.toNat_toUInt64_of_le hx]
  rfl

theorem toNat_toUInt64_neg {x : Int64} (h : x.toInt < 0) : 2 ^ 63 ≤ x.toUInt64.toNat := by
  have hx : x.toInt = x.toBitVec.toInt := rfl
  have hn : x.toUInt64.toNat = x.toBitVec.toNat := rfl
  rw [hx, BitVec.toInt_eq_toNat_cond] at h
  rw [hn]
  split at h <;> omega

/-- The sum `datalen + size`, as the code computes it. -/
theorem toInt_datalen_add {d : Int32} {n : Nat} (size : Int64) (hd : d.toInt = n) (hl : n ≤ HTTP_BUFFER_LEN) :
    (d.toInt64 + size).toInt = if n + size.toInt < 2 ^ 63 then n + size.toInt else n + size.toInt - 2 ^ 64 := by
  have h₁ := size.le_toInt
  have h₂ := size.toInt_lt
  have hb : HTTP_BUFFER_LEN = 65536 := rfl
  rw [Int64.toInt_add, Int32.toInt_toInt64, hd, Int.bmod_def]
  split <;> omega

theorem bufferLen_lt_iff {x : Int64} : Int64.ofNat HTTP_BUFFER_LEN < x ↔ (HTTP_BUFFER_LEN : Int) < x.toInt := by
  rw [Int64.lt_iff_toInt_lt]
  rfl

/-! ## What is stored -/

section Body

variable {b : HttpContext} {src : Mem} {size : Int64} {n : Nat}

theorem storeBody_empty : storeBody b (some src) 0 = .ok (some b) := rfl

variable (src) in
theorem storeBody_fits (hd : b.datalen.toInt = n) (h0 : 0 ≤ size.toInt) (hl : n + size.toInt ≤ HTTP_BUFFER_LEN) :
    ∃ d : Int32, d.toInt = n + size.toInt ∧ storeBody b (some src) size = .ok (some { b with
      buffer := b.buffer.write n src size.toInt.toNat, datalen := d }) := by
  have hb : HTTP_BUFFER_LEN = 65536 := rfl
  by_cases hs : size = 0
  · subst hs
    exact ⟨b.datalen, by simp [hd], by simp [storeBody_empty]⟩
  have hadd := toInt_datalen_add size hd (by omega)
  rw [if_pos (by omega)] at hadd
  refine ⟨(b.datalen.toInt64 + size).toInt32, ?_, ?_⟩
  · rw [Int64.toInt_toInt32, hadd, Int.bmod_def]
    split <;> omega
  · rw [storeBody, if_neg hs, if_neg, if_pos, hd, toNat_toUInt64 h0, Int.toNat_natCast]
    · rw [hd, toNat_toUInt64 h0]
      omega
    · rw [bufferLen_lt_iff, hadd]
      omega

theorem storeBody_refused (hd : b.datalen.toInt = n) (hn : n ≤ HTTP_BUFFER_LEN) (hl : HTTP_BUFFER_LEN < n + size.toInt)
    (hs : n + size.toInt < 2 ^ 63) : storeBody b (some src) size = .ok none := by
  have h0 : size ≠ 0 := by intro e; subst e; simp at hl; omega
  rw [storeBody, if_neg h0, if_pos]
  rw [bufferLen_lt_iff, toInt_datalen_add size hd hn, if_pos hs]
  exact hl

theorem storeBody_overruns (hd : b.datalen.toInt = n) (hn : n ≤ HTTP_BUFFER_LEN)
    (hs : size.toInt < 0 ∨ 2 ^ 63 ≤ n + size.toInt) : storeBody b (some src) size = .error .outOfBounds := by
  have hb : HTTP_BUFFER_LEN = 65536 := rfl
  have h₁ := size.le_toInt
  have h₂ := size.toInt_lt
  have h0 : size ≠ 0 := by intro e; subst e; rcases hs with hs | hs <;> simp at hs; omega
  have hlarge : 65536 < size.toUInt64.toNat := by
    rcases hs with hs | hs
    · have := toNat_toUInt64_neg hs
      omega
    · rw [toNat_toUInt64 (by omega)]
      omega
  rw [storeBody, if_neg h0, if_neg, if_neg]
  · omega
  · rw [bufferLen_lt_iff, toInt_datalen_add size hd hn]
    split <;> omega

/-- All a body chunk changes. -/
theorem storeBody_rest {buffer : Option Mem} {b' : HttpContext} (h : storeBody b buffer size = .ok (some b')) :
    b' = { b with buffer := b'.buffer, datalen := b'.datalen } := by
  unfold storeBody at h
  cases buffer with
  | none => cases h; rfl
  | some src =>
    dsimp only at h
    split at h
    · cases h; rfl
    · split at h
      · cases h
      · split at h <;> cases h
        rfl

/-- All a status changes. -/
theorem storeStatus_rest {status : Int64} {responseType : CString} {b' : HttpContext}
    (h : storeStatus b status responseType = .ok b') :
    b' = { b with status := status, responseType := b'.responseType, buffer := b'.buffer } := by
  unfold storeStatus at h
  dsimp only at h
  split at h
  · cases h
  · cases h
    dsimp only

end Body

/-! ## The callbacks on a live context -/

section Callbacks

variable {a : Addr} {b : HttpContext} {w : World}

theorem derefContext_eq (h : w.https a = some b) :
    derefContext a w = .ok (b, w) := by
  rw [derefContext, get_bind, h]
  rfl

theorem mesiboJsDestroyHttpContext_eq (h : w.https a = some b) :
    mesiboJsDestroyHttpContext a w =
      .ok ((), { w with https := Function.update w.https a none, destroyed := w.destroyed ++ [a] }) := by
  rw [mesiboJsDestroyHttpContext, bind_eq (derefContext_eq h)]
  rfl

/-- What `js_mesibo_http_ondata` does on a live context. -/
theorem ondata_eq (hb : w.https a = some b) (state progress : Int64) (buffer : Option Mem) (size : Int64) :
    jsMesiboHttpOndata P a state progress buffer size w =
      if progress < 0 then
        .ok (P.MESIBO_RESULT_FAIL,
          { w with https := Function.update w.https a none, destroyed := w.destroyed ++ [a] })
      else if P.MODULE_HTTP_STATE_RESPBODY ≠ state then .ok (P.MESIBO_RESULT_OK, w)
      else match storeBody b buffer size with
        | .error f => .error f
        | .ok none => .ok (P.MESIBO_RESULT_FAIL, w)
        | .ok (some b') => .ok (P.MESIBO_RESULT_OK, { w with https := Function.update w.https a (some b') }) := by
  rw [jsMesiboHttpOndata, bind_eq (derefContext_eq hb)]
  by_cases hp : progress < 0
  · rw [if_pos hp, if_pos hp, bind_eq (mesiboJsDestroyHttpContext_eq hb)]
    rfl
  rw [if_neg hp, if_neg hp]
  by_cases hs : P.MODULE_HTTP_STATE_RESPBODY ≠ state
  · rw [if_pos hs, if_pos hs]
    rfl
  rw [if_neg hs, if_neg hs]
  cases storeBody b buffer size with
  | error f => rfl
  | ok r => cases r <;> rfl

/-- What `js_mesibo_http_onstatus` does on the live context of a module. -/
theorem onstatus_eq (hb : w.https a = some b) {mod : ModId} (hm : b.mod = some mod) (status : Int64)
    (responseType : CString) : jsMesiboHttpOnstatus P a status (some responseType) w =
      match storeStatus b status responseType with
      | .error f => .error f
      | .ok b' => .ok (P.MESIBO_RESULT_OK, { w with https := Function.update w.https a (some b') }) := by
  rw [jsMesiboHttpOnstatus, bind_eq (derefContext_eq hb), hm]
  dsimp only
  cases storeStatus b status responseType <;> rfl

end Callbacks

end MesiboV8
