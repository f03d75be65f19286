/-
  MesiboV8.HttpBounds — the bounds of the response buffer over a run of `ondata` calls.

  The guard of `js_mesibo_http_ondata` is a signed comparison of a sum and leaves out only
  the size 0. With `n` bytes accepted so far a call keeps the bounds exactly if it does not
  get to the sum or its size is not negative and `n + size` fits 63 bits
  (`callInBounds_iff`), and it leaves a length the next call can be judged by
  (`ondata_keeps`). So a run keeps them exactly if every call that gets to the sum has such
  a size (`bounds_kept_iff`).
-/

import MesiboV8.HttpBuffer
import MesiboV8.HttpClose

namespace MesiboV8

open Lib.Bytes Lib.Utf Lib.Effects Act

variable {P : Platform}

/-! ## A call -/

/-- The arguments of a `js_mesibo_http_ondata`. -/
structure DataCall where
  state : Int64
  progress : Int64
  buffer : Option Mem
  size : Int64

/-- The call comes to the sum `datalen + size`. -/
structure DataCall.Sums (P : Platform) (c : DataCall) : Prop where
  progress : ¬c.progress < 0
  state : P.MODULE_HTTP_STATE_RESPBODY = c.state
  buffer : c.buffer.isSome
  size : c.size ≠ 0

instance (P : Platform) (c : DataCall) : Decidable (c.Sums P) :=
  decidable_of_iff (¬c.progress < 0 ∧ P.MODULE_HTTP_STATE_RESPBODY = c.state ∧ c.buffer.isSome ∧ c.size ≠ 0)
    ⟨fun ⟨h₁, h₂, h₃, h₄⟩ => ⟨h₁, h₂, h₃, h₄⟩, fun h => ⟨h.progress, h.state, h.buffer, h.size⟩⟩

/-- The sum of a call is exact, and the `memcpy` that the guard lets through copies no
    negative number of bytes and those into the buffer. -/
structure CallInBounds (P : Platform) (b : HttpContext) (c : DataCall) : Prop where
  sum : c.Sums P → (b.datalen.toInt64 + c.size).toInt = b.datalen.toInt + c.size.toInt
  copy : c.Sums P → ¬Int64.ofNat HTTP_BUFFER_LEN < b.datalen.toInt64 + c.size →
    0 ≤ c.size.toInt ∧ 0 ≤ b.datalen.toInt ∧ b.datalen.toInt + c.size.toInt ≤ HTTP_BUFFER_LEN

/-- The size can be added to `n` bytes. -/
def DataCall.SizeFits (P : Platform) (n : Nat) (c : DataCall) : Prop :=
  c.Sums P → 0 ≤ c.size.toInt ∧ n + c.size.toInt < 2 ^ 63

/-- The bytes accepted after the call, with `n` before it. -/
def DataCall.accepted (P : Platform) (n : Nat) (c : DataCall) : Nat :=
  if c.Sums P ∧ n + c.size.toInt ≤ HTTP_BUFFER_LEN then n + c.size.toInt.toNat else n

section Call

variable {b : HttpContext} {c : DataCall} {n : Nat}

theorem callInBounds_iff (hd : b.datalen.toInt = n) (hn : n ≤ HTTP_BUFFER_LEN) :
    CallInBounds P b c ↔ c.SizeFits P n := by
  have hb : HTTP_BUFFER_LEN = 65536 := rfl
  have h₁ := c.size.le_toInt
  have h₂ := c.size.toInt_lt
  have hadd := toInt_datalen_add c.size hd hn
  constructor
  · intro h hs
    have hsum := h.sum hs
    rw [hadd, hd] at hsum
    by_cases hov : n + c.size.toInt < 2 ^ 63
    · refine ⟨?_, hov⟩
      by_cases hneg : 0 ≤ c.size.toInt
      · exact hneg
      · refine (h.copy hs ?_).1
        rw [bufferLen_lt_iff, hadd, if_pos hov]
        omega
    · rw [if_neg hov] at hsum
      omega
  · intro h
    constructor
    · intro hs
      rw [hadd, hd, if_pos (h hs).2]
    · intro hs hlt
      obtain ⟨h0, hov⟩ := h hs
      rw [bufferLen_lt_iff, hadd, if_pos hov] at hlt
      rw [hd]
      omega

theorem accepted_le (hn : n ≤ HTTP_BUFFER_LEN) (h : c.SizeFits P n) : c.accepted P n ≤ HTTP_BUFFER_LEN := by
  unfold DataCall.accepted
  split
  · rename_i hs
    have := (h hs.1).1
    omega
  · exact hn

end Call

/-! ## Runs of calls -/

def dataCall (P : Platform) (a : Addr) (w : World) (c : DataCall) : Except Fault (Int64 × World) :=
  jsMesiboHttpOndata P a c.state c.progress c.buffer c.size w

/-- While there is a context at `a`, each call on it is in bounds and leaves a length that is. -/
def InBounds (P : Platform) (a : Addr) : World → List DataCall → Prop
  | _, [] => True
  | w, c :: cs => ∀ b, w.https a = some b → CallInBounds P b c ∧ ∀ rv w', dataCall P a w c = .ok (rv, w') →
      (∀ b', w'.https a = some b' → 0 ≤ b'.datalen.toInt ∧ b'.datalen.toInt ≤ HTTP_BUFFER_LEN) ∧ InBounds P a w' cs

/-- The size of each call fits, up to one that frees the context. -/
def SizesFit (P : Platform) : Nat → List DataCall → Prop
  | _, [] => True
  | n, c :: cs => c.SizeFits P n ∧ (¬c.progress < 0 → SizesFit P (c.accepted P n) cs)

section Run

variable {a : Addr} {w : World} {b : HttpContext} {c : DataCall} {n : Nat}

theorem ondata_frees (hb : w.https a = some b) (hp : c.progress < 0) :
    ∃ rv w', dataCall P a w c = .ok (rv, w') ∧ w'.https a = none := by
  refine ⟨P.MESIBO_RESULT_FAIL,
    { w with https := Function.update w.https a none, destroyed := w.destroyed ++ [a] }, ?_, Function.update_self _ _ _⟩
  rw [dataCall, ondata_eq hb, if_pos hp]

/-- A call whose size fits leaves the context with the bytes it accepts. -/
theorem ondata_keeps (hb : w.https a = some b) (hd : b.datalen.toInt = n) (hn : n ≤ HTTP_BUFFER_LEN)
    (hp : ¬c.progress < 0) (hc : c.SizeFits P n) :
    ∃ rv w' b', dataCall P a w c = .ok (rv, w') ∧ w'.https a = some b' ∧ b'.datalen.toInt = c.accepted P n := by
  rw [dataCall, ondata_eq hb, if_neg hp]
  have other : ¬c.Sums P → c.accepted P n = n := fun h => if_neg fun hs => h hs.1
  by_cases hs : P.MODULE_HTTP_STATE_RESPBODY ≠ c.state
  · rw [if_pos hs, other fun h => hs h.state]
    exact ⟨_, w, b, rfl, hb, hd⟩
  rw [if_neg hs]
  cases hbuf : c.buffer with
  | none =>
    rw [other fun h => by have := h.buffer; rw [hbuf] at this; cases this]
    exact ⟨_, _, b, rfl, Function.update_self _ _ _, hd⟩
  | some src =>
    by_cases hz : c.size = 0
    · rw [hz, storeBody_empty, other fun h => h.size hz]
      exact ⟨_, _, b, rfl, Function.update_self _ _ _, hd⟩
    have hsum : c.Sums P := ⟨hp, not_not.mp hs, by rw [hbuf]; rfl, hz⟩
    obtain ⟨h0, hov⟩ := hc hsum
    by_cases hl : n + c.size.toInt ≤ HTTP_BUFFER_LEN
    · obtain ⟨d, hd', hst⟩ := storeBody_fits src hd h0 hl
      rw [hst, DataCall.accepted, if_pos ⟨hsum, hl⟩]
      refine ⟨_, _, _, rfl, Function.update_self _ _ _, ?_⟩
      show d.toInt = ((n + c.size.toInt.toNat : Nat) : Int)
      omega
    · rw [storeBody_refused hd hn (by omega) hov, DataCall.accepted, if_neg fun h => hl h.2]
      exact ⟨_, w, b, rfl, hb, hd⟩

theorem inBounds_freed (h : w.https a = none) (cs : List DataCall) : InBounds P a w cs := by
  cases cs with
  | nil => trivial
  | cons c cs => exact fun b hb => nomatch h.symm.trans hb

/-- A run of calls keeps the bounds of a live context exactly if their sizes fit. -/
theorem bounds_kept_iff (hb : w.https a = some b) (hd : b.datalen.toInt = n) (hn : n ≤ HTTP_BUFFER_LEN)
    (cs : List DataCall) : InBounds P a w cs ↔ SizesFit P n cs := by
  induction cs generalizing w b n with
  | nil => exact Iff.rfl
  | cons c cs ih =>
    constructor
    · intro h
      obtain ⟨hcall, hrest⟩ := h b hb
      have hc := (callInBounds_iff hd hn).mp hcall
      refine ⟨hc, fun hp => ?_⟩
      obtain ⟨rv, w', b', hw', hb', hd'⟩ := ondata_keeps hb hd hn hp hc
      exact (ih hb' hd' (accepted_le hn hc)).mp (hrest rv w' hw').2
    · intro h b₀ hb₀
      cases hb.symm.trans hb₀
      obtain ⟨hc, hrest⟩ := h
      refine ⟨(callInBounds_iff hd hn).mpr hc, fun rv w' hw' => ?_⟩
      by_cases hp : c.progress < 0
      · obtain ⟨rv₁, w₁, hw₁, hnone⟩ := ondata_frees (P := P) hb hp
        cases hw₁.symm.trans hw'
        refine ⟨fun b' hb' => ?_, inBounds_freed hnone cs⟩
        cases hnone.symm.trans hb'
      · obtain ⟨rv₁, w₁, b₁, hw₁, hb₁, hd₁⟩ := ondata_keeps hb hd hn hp hc
        cases hw₁.symm.trans hw'
        have hle := accepted_le hn hc
        refine ⟨fun b' hb' => ?_, (ih hb₁ hd₁ hle).mpr (hrest hp)⟩
        cases hb₁.symm.trans hb'
        omega

end Run

/-- A context for a function, with nothing in it. -/
def World.listening : World :=
  World.empty.addContext (freshContext 0 0 (.func 1) .null)

/-- A byte of the body. -/
def DataCall.byte (size : Int64) : DataCall :=
  ⟨Platform.reference.MODULE_HTTP_STATE_RESPBODY, 50, some (Mem.ofList [1]), size⟩

theorem bounds_kept_iff_byte : InBounds .reference 0 .listening [.byte 1, .byte 1] := by
  refine (bounds_kept_iff (n := 0) rfl rfl (Nat.zero_le _) _).mpr ⟨fun _ => ?_, fun _ => ⟨fun _ => ?_, fun _ => trivial⟩⟩ <;>
    decide

/-- A size of -1 is copied as 2^64 - 1 bytes. -/
theorem negative_size_overruns : ¬∀ (a : Addr) (w : World) (b : HttpContext) (cs : List DataCall), w.https a = some b →
    b.datalen = 0 → InBounds .reference a w cs := by
  intro h
  obtain ⟨hcall, -⟩ := h 0 .listening _ [.byte (-1)] rfl rfl _ rfl
  have := (hcall.copy (by decide) (by decide)).1
  exact absurd this (by decide)

end MesiboV8
