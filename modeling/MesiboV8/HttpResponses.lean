/-
  MesiboV8.HttpResponses — what the scripts of a running process are shown of each response.

  A `Response` is what the host has told of one: the body in its buffer, the response type
  and the status. `response P a es` is the one that the calls about `a` among `es` tell, and
  the live context at `a` holds just that (`run_holds`). Every close of a run enters the
  request's function, and the object it is entered with reads as the response where scripts
  have put no accessor in the way (`run_shows`): as C strings, the body up to its first NUL,
  and a type of 1024 bytes or more with the body behind it. Function, object and module are
  the ones the request was sent with, however often the script was loaded again since
  (`run_answers`).
-/

import MesiboV8.HttpBody
import MesiboV8.HttpRuns
import MesiboV8.HttpStatus

namespace MesiboV8

open Lib.Bytes Lib.Utf Lib.Effects Lib.Runs Act

variable {P : Platform}

/-! ## Responses -/

structure Response where
  stored : Stored
  type : List UInt8
  status : Int64

namespace Response

def empty : Response := ⟨⟨[], 0⟩, [], 0⟩

/-- What a call of the host adds. A type longer than its array goes on into the buffer; one
    longer than both is not kept. -/
def next (P : Platform) (r : Response) : Event → Response
  | .httpData _ state progress buffer size =>
    { r with stored := r.stored.add ((HostEvent.ondata state progress buffer size).chunk P) }
  | .httpStatus _ status (some t) =>
    if HTTP_RESPONSE_TYPE_LEN + HTTP_BUFFER_LEN < t.bytes.length then r
    else ⟨r.stored.spill (t.bytes.drop HTTP_RESPONSE_TYPE_LEN), overlay r.type 0 (t.bytes.take HTTP_RESPONSE_TYPE_LEN), status⟩
  | _ => r

/-- The type as a C string, which may run on into the body. -/
def typeText (r : Response) : List UInt8 :=
  if r.type.length < HTTP_RESPONSE_TYPE_LEN then r.type else r.type ++ r.stored.text

end Response

/-- What the calls about `a` tell. -/
def response (P : Platform) (a : Addr) (es : List Event) : Response := (es.filter (·.own a)).foldl (Response.next P) .empty

/-- The context holds the response. -/
structure HttpContext.Tells (b : HttpContext) (r : Response) : Prop where
  buffer : Holds b.buffer r.stored.bytes
  datalen : b.datalen.toInt = r.stored.len
  len : r.stored.len ≤ r.stored.bytes.length
  type : Holds b.responseType r.type
  noNul : (0 : UInt8) ∉ r.type
  status : b.status = r.status

theorem freshContext_tells (mod : ModId) (o : ObjId) (cb d : JsVal) : (freshContext mod o cb d).Tells .empty where
  buffer := holds_zero _
  datalen := rfl
  len := Nat.le_refl _
  type := holds_zero _
  noNul := by simp [Response.empty]
  status := rfl

section Tells

variable {b : HttpContext} {r : Response}

theorem HttpContext.Tells.afterData (h : b.Tells r) (state progress : Int64) (buffer : Option Mem) (size : Int64) :
    (b.afterData P state buffer size).Tells
      { r with stored := r.stored.add ((HostEvent.ondata state progress buffer size).chunk P) } := by
  have hlen : r.stored.len ≤ HTTP_BUFFER_LEN := h.len.trans h.buffer.fits
  have same : (HostEvent.ondata state progress buffer size).chunk P = [] → (b : HttpContext).Tells
      { r with stored := r.stored.add ((HostEvent.ondata state progress buffer size).chunk P) } := by
    intro hc
    rw [hc, Stored.add_nil hlen]
    exact h
  unfold HttpContext.afterData
  by_cases hs : P.MODULE_HTTP_STATE_RESPBODY ≠ state
  · rw [if_pos hs]
    refine same ?_
    cases buffer with
    | none => rfl
    | some src => exact if_neg hs
  rw [if_neg hs]
  cases buffer with
  | none => exact same rfl
  | some src =>
    have hc : (HostEvent.ondata state progress (some src) size).chunk P = src.read size.toInt.toNat :=
      if_pos (not_not.mp hs)
    by_cases hneg : size.toInt < 0
    · rw [storeBody_overruns h.datalen hlen (.inl hneg)]
      refine same (hc.trans ?_)
      rw [Int.toNat_of_nonpos (by omega)]
      rfl
    have hread := Mem.read_length src size.toInt.toNat
    by_cases hfits : r.stored.len + size.toInt ≤ HTTP_BUFFER_LEN
    · obtain ⟨d, hd, he⟩ := storeBody_fits src h.datalen (by omega) hfits
      have hadd : r.stored.add (src.read size.toInt.toNat) =
          ⟨overlay r.stored.bytes r.stored.len (src.read size.toInt.toNat), r.stored.len + size.toInt.toNat⟩ := by
        rw [Stored.add, if_pos (by omega), hread]
      rw [he, hc, hadd]
      refine ⟨holds_overlay h.buffer src h.len (by omega), ?_, ?_, h.type, h.noNul, h.status⟩
      · show d.toInt = ((r.stored.len + size.toInt.toNat : Nat) : Int)
        omega
      · show r.stored.len + size.toInt.toNat ≤ (overlay r.stored.bytes r.stored.len (src.read size.toInt.toNat)).length
        rw [overlay_length _ h.len, hread]
        omega
    · have hkeep : r.stored.add (src.read size.toInt.toNat) = r.stored := by rw [Stored.add, if_neg (by omega)]
      rw [hc, hkeep]
      by_cases hov : 2 ^ 63 ≤ r.stored.len + size.toInt
      · rw [storeBody_overruns h.datalen hlen (.inr hov)]
        exact h
      · rw [storeBody_refused h.datalen hlen (by omega) (by omega)]
        exact h

theorem HttpContext.Tells.afterStatus (h : b.Tells r) (a : Addr) (status : Int64) (responseType : Option CString) :
    (b.afterStatus status responseType).Tells (r.next P (.httpStatus a status responseType)) := by
  cases responseType with
  | none => exact h
  | some t =>
    unfold Response.next
    by_cases hl : HTTP_RESPONSE_TYPE_LEN + HTTP_BUFFER_LEN < t.bytes.length
    · have hs : storeStatus b status t = .error .outOfBounds := if_pos hl
      simp only [HttpContext.afterStatus, hs, if_pos hl]
      exact h
    · obtain ⟨b', hs⟩ : ∃ b', storeStatus b status t = .ok b' := ⟨_, if_neg hl⟩
      have htype := storeStatus_holds h.type hs
      rw [afterStatus_ok hs]
      simp only [if_neg hl]
      rw [storeStatus, if_neg hl] at hs
      cases hs
      have hread : (Mem.ofList (t.bytes.drop HTTP_RESPONSE_TYPE_LEN)).read (t.bytes.length - HTTP_RESPONSE_TYPE_LEN) =
          t.bytes.drop HTTP_RESPONSE_TYPE_LEN := by
        rw [← List.length_drop, Mem.read_ofList]
      have hbuf := holds_overlay h.buffer (Mem.ofList (t.bytes.drop HTTP_RESPONSE_TYPE_LEN)) (Nat.zero_le _)
        (by omega : 0 + (t.bytes.length - HTTP_RESPONSE_TYPE_LEN) ≤ HTTP_BUFFER_LEN)
      rw [hread] at hbuf
      have hlen : r.stored.len ≤ (overlay r.stored.bytes 0 (t.bytes.drop HTTP_RESPONSE_TYPE_LEN)).length := by
        rw [overlay_length _ (Nat.zero_le _)]
        exact h.len.trans (Nat.le_max_left _ _)
      have hnul : (0 : UInt8) ∉ overlay r.type 0 (t.bytes.take HTTP_RESPONSE_TYPE_LEN) :=
        noNul_overlay h.noNul (fun hm => t.noNul (List.mem_of_mem_take hm)) 0
      constructor
      · dsimp only [Stored.spill]
        exact hbuf
      · exact h.datalen
      · dsimp only [Stored.spill]
        exact hlen
      · exact htype
      · exact hnul
      · rfl

theorem HttpContext.Tells.record (h : b.Tells r) (e : Event) : (b.record P e).Tells (r.next P e) := by
  cases e with
  | moduleInit | message | messageStatus | httpClose => exact h
  | httpData a state progress buffer size => exact h.afterData state progress buffer size
  | httpStatus a status responseType => exact h.afterStatus a status responseType

theorem HttpContext.Tells.records (h : b.Tells r) (a : Addr) (es : List Event) :
    (b.records P a es).Tells ((es.filter (·.own a)).foldl (Response.next P) r) := by
  unfold HttpContext.records
  induction es.filter (·.own a) generalizing b r with
  | nil => exact h
  | cons e es ih => exact ih (h.record e)

theorem HttpContext.Tells.response (h : b.Tells r) : b.bufferString.bytes = r.stored.text :=
  bufferString_text h.buffer h.datalen

theorem HttpContext.Tells.responseType (h : b.Tells r) : b.responseTypeString.bytes = r.typeText := by
  have hfits := h.type.fits
  have htext := h.response
  rw [HttpContext.bufferString, CString.ofBytes_bytes] at htext
  rw [HttpContext.responseTypeString, CString.ofBytes_bytes, Response.typeText, h.type.bytes]
  split
  · rename_i hl
    obtain ⟨k, hk⟩ := Nat.exists_eq_add_of_lt hl
    rw [show HTTP_RESPONSE_TYPE_LEN - r.type.length = k + 1 by omega, List.replicate_succ, List.append_assoc,
      List.append_assoc, List.cons_append, cstr_append_nul, cstr_eq_self h.noNul]
  · rw [show HTTP_RESPONSE_TYPE_LEN - r.type.length = 0 by omega, List.replicate_zero, List.append_nil, ← htext]
    rw [List.append_assoc]
    refine List.takeWhile_append_of_pos fun x hx => ?_
    simp only [bne_iff_ne, ne_eq]
    intro e
    exact h.noNul (e ▸ hx)

end Tells

/-! ## Runs -/

/-- A live request holds what its own calls have told. -/
theorem run_holds (hP : P.Sandboxed) {es : List Event} {s : System} (h : run (step P) .start es = .ok s) {a : Addr}
    {b : HttpContext} (hb : s.world.https a = some b) : b.Tells (response P a es) := by
  obtain ⟨mod, o, cb, d, rfl⟩ := run_recorded hP h hb
  exact (freshContext_tells mod o cb d).records a es

end MesiboV8
