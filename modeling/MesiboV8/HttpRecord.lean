/-
  MesiboV8.HttpRecord — what the host's callbacks make of the context of a request.

  `afterData` and `afterStatus` are the contents of a context after a callback, as a function of
  what it was before: a chunk or a type that is refused leaves it as it is. A callback that
  comes back has freed the context or put that in its place (`ondata_cases`, `onstatus_cases`).
-/

import MesiboV8.HttpBuffer

namespace MesiboV8

open Lib.Bytes Lib.Utf Lib.Effects Act

variable {P : Platform}

/-- The context after an `ondata` that does not end the request. -/
def HttpContext.afterData (P : Platform) (b : HttpContext) (state : Int64) (buffer : Option Mem) (size : Int64) :
    HttpContext :=
  if P.MODULE_HTTP_STATE_RESPBODY ≠ state then b
  else match storeBody b buffer size with
    | .ok (some b') => b'
    | _ => b

/-- The context after an `onstatus`. -/
def HttpContext.afterStatus (b : HttpContext) (status : Int64) (responseType : Option CString) : HttpContext :=
  match responseType with
  | none => b
  | some t =>
    match storeStatus b status t with
    | .ok b' => b'
    | .error _ => b

theorem afterStatus_ok {b b' : HttpContext} {status : Int64} {t : CString} (h : storeStatus b status t = .ok b') :
    b.afterStatus status (some t) = b' := by
  simp only [HttpContext.afterStatus, h]

theorem derefContext_ok {a : Addr} {w u : World} {b : HttpContext} (h : derefContext a w = .ok (b, u)) :
    w.https a = some b ∧ u = w := by
  rw [derefContext, get_bind] at h
  cases hb : w.https a with
  | none => rw [hb] at h; cases h
  | some c => rw [hb] at h; cases h; exact ⟨rfl, rfl⟩

section Callbacks

variable {a : Addr} {w u : World} {rv : Int64}

theorem put_self {b : HttpContext} (hb : w.https a = some b) : { w with https := Function.update w.https a (some b) } = w := by
  rw [← hb, Function.update_eq_self]

theorem ondata_cases {state progress : Int64} {buffer : Option Mem} {size : Int64}
    (h : jsMesiboHttpOndata P a state progress buffer size w = .ok (rv, u)) : ∃ b, w.https a = some b ∧
      u = if progress < 0 then { w with https := Function.update w.https a none, destroyed := w.destroyed ++ [a] }
        else { w with https := Function.update w.https a (some (b.afterData P state buffer size)) } := by
  obtain ⟨b, v, hb, -⟩ := bind_ok.mp h
  obtain ⟨hb, -⟩ := derefContext_ok hb
  refine ⟨b, hb, ?_⟩
  rw [ondata_eq hb] at h
  by_cases hp : progress < 0
  · rw [if_pos hp] at h ⊢
    cases h
    rfl
  rw [if_neg hp] at h ⊢
  unfold HttpContext.afterData
  by_cases hs : P.MODULE_HTTP_STATE_RESPBODY ≠ state
  · rw [if_pos hs] at h ⊢
    cases h
    exact (put_self hb).symm
  rw [if_neg hs] at h ⊢
  cases hx : storeBody b buffer size with
  | error f => rw [hx] at h; cases h
  | ok c =>
    rw [hx] at h
    cases c with
    | none => cases h; exact (put_self hb).symm
    | some b' => cases h; rfl

/-- Without a type, or a module, nothing is done. -/
theorem onstatus_cases {status : Int64} {responseType : Option CString}
    (h : jsMesiboHttpOnstatus P a status responseType w = .ok (rv, u)) :
    (u = w ∧ (responseType = none ∨ ∃ b, w.https a = some b ∧ b.mod = none)) ∨
      ∃ b, w.https a = some b ∧
        u = { w with https := Function.update w.https a (some (b.afterStatus status responseType)) } := by
  cases responseType with
  | none => cases h; exact .inl ⟨rfl, .inl rfl⟩
  | some t =>
    obtain ⟨b, v, hb, hx⟩ := bind_ok.mp h
    obtain ⟨hb, rfl⟩ := derefContext_ok hb
    cases hm : b.mod with
    | none => rw [hm] at hx; cases hx; exact .inl ⟨rfl, .inr ⟨b, hb, hm⟩⟩
    | some m =>
      refine .inr ⟨b, hb, ?_⟩
      rw [onstatus_eq hb hm] at h
      cases hs : storeStatus b status t with
      | error f => rw [hs] at h; cases h
      | ok b' =>
        rw [hs] at h
        cases h
        rw [afterStatus_ok hs]

end Callbacks

/-! ## What is kept -/

/-- The length of the body is one `buffer` can have. -/
def HttpContext.InBounds (b : HttpContext) : Prop := 0 ≤ b.datalen.toInt ∧ b.datalen.toInt ≤ HTTP_BUFFER_LEN

/-- What a callback keeps of a context: its handles, and a length in bounds. -/
structure HttpContext.Kept (b b' : HttpContext) : Prop where
  mod : b'.mod = b.mod
  httpObj : b'.httpObj = b.httpObj
  httpCb : b'.httpCb = b.httpCb
  inBounds : b.InBounds → b'.InBounds

theorem HttpContext.Kept.refl (b : HttpContext) : b.Kept b := ⟨rfl, rfl, rfl, fun h => h⟩

theorem HttpContext.Kept.trans {b b' b'' : HttpContext} (h : b.Kept b') (g : b'.Kept b'') : b.Kept b'' :=
  ⟨g.mod.trans h.mod, g.httpObj.trans h.httpObj, g.httpCb.trans h.httpCb, fun hb => g.inBounds (h.inBounds hb)⟩

theorem storeBody_kept {b b' : HttpContext} {buffer : Option Mem} {size : Int64}
    (h : storeBody b buffer size = .ok (some b')) : b.Kept b' := by
  have hr := storeBody_rest h
  refine ⟨congrArg (·.mod) hr, congrArg (·.httpObj) hr, congrArg (·.httpCb) hr, fun hb => ?_⟩
  cases buffer with
  | none => cases h; exact hb
  | some src =>
    obtain ⟨h0, hl⟩ := hb
    obtain ⟨n, hn⟩ := Int.eq_ofNat_of_zero_le h0
    have hmax : n ≤ HTTP_BUFFER_LEN := by omega
    by_cases hover : size.toInt < 0 ∨ 2 ^ 63 ≤ n + size.toInt
    · rw [storeBody_overruns hn hmax hover] at h
      cases h
    · by_cases hfits : n + size.toInt ≤ HTTP_BUFFER_LEN
      · obtain ⟨d, hd, he⟩ := storeBody_fits src hn (by omega) hfits
        cases he.symm.trans h
        show 0 ≤ d.toInt ∧ d.toInt ≤ HTTP_BUFFER_LEN
        omega
      · rw [storeBody_refused hn hmax (by omega) (by omega)] at h
        cases h

theorem afterData_kept (b : HttpContext) (state : Int64) (buffer : Option Mem) (size : Int64) :
    b.Kept (b.afterData P state buffer size) := by
  unfold HttpContext.afterData
  split
  · exact .refl b
  · split
    · rename_i h
      exact storeBody_kept h
    · exact .refl b

theorem afterStatus_kept (b : HttpContext) (status : Int64) (responseType : Option CString) :
    b.Kept (b.afterStatus status responseType) := by
  unfold HttpContext.afterStatus
  cases responseType with
  | none => exact .refl b
  | some t =>
    dsimp only
    cases hs : storeStatus b status t with
    | error f => exact .refl b
    | ok b' =>
      have hr := storeStatus_rest hs
      dsimp only
      refine ⟨congrArg (·.mod) hr, congrArg (·.httpObj) hr, congrArg (·.httpCb) hr, fun hb => ?_⟩
      unfold HttpContext.InBounds
      rw [congrArg (·.datalen) hr]
      exact hb

end MesiboV8
