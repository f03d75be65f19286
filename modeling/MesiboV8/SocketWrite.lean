/-
  MesiboV8.SocketWrite — what `write` and `close` of a socket ask of the host.

  `SocketWriteCallback` looks at the types of its arguments, copies the data and hands the
  host its own decoding of socket and length (`socketWriteCallback_calls`). A number need
  not be an int32, and an int32 need not be a length of the copy; so the host stays inside
  the data exactly when the script gives such numbers, or none at all
  (`write_inside_iff`).
-/

import MesiboV8.MessageSend
import MesiboV8.Socket

namespace MesiboV8

open Lib.Bytes Lib.Utf Lib.Effects Act

variable {P : Platform}

/-- `write` gets as far as the host. -/
structure WriteReaches (P : Platform) (info : CallInfo) (w : World) : Prop where
  args : info.args.length = 3
  mod : info.mod.isSome
  sock : (info.arg 0).isNumber
  len : (info.arg 2).isNumber
  data : (info.arg 1).isNullOrUndefined = false
  copy : (P.toUtf8 (info.arg 1) w).isSome

section Calls

variable {info : CallInfo} {w : World}

theorem socketWriteCallback_calls (h : WriteReaches P info w) {bytes : List UInt8}
    (hb : P.toUtf8 (info.arg 1) w = some bytes) :
    ∃ u, socketWriteCallback P info w = .ok (.undefined, u) ∧ u.calls =
      w.calls ++ [.mesiboUtilSocketWrite (jtoCInt (info.arg 0)) (.ofBytes bytes) (jtoCInt (info.arg 2))] := by
  have hmod : info.mod.isNone = false := by
    have := h.mod
    cases hm : info.mod with
    | none => rw [hm] at this; cases this
    | some mod => rfl
  rw [socketWriteCallback, if_neg (not_not.mpr h.args), hmod, h.sock, h.len]
  refine ⟨_, bind_eq (jtoCString_eq h.data hb), ?_⟩
  rfl

theorem socketWriteCallback_refused (h : ¬WriteReaches P info w) {r : JsVal} {u : World}
    (hx : socketWriteCallback P info w = .ok (r, u)) : u.calls = w.calls := by
  rw [socketWriteCallback] at hx
  by_cases hargs : info.args.length ≠ 3
  · rw [if_pos hargs] at hx
    cases hx
    rfl
  rw [if_neg hargs] at hx
  by_cases hmod : info.mod.isNone
  · rw [if_pos hmod] at hx
    cases hx
    rfl
  rw [if_neg hmod] at hx
  by_cases hsock : (!(info.arg 0).isNumber) = true
  · rw [if_pos hsock] at hx
    cases hx
    rfl
  rw [if_neg hsock] at hx
  by_cases hlen : (!(info.arg 2).isNumber) = true
  · rw [if_pos hlen] at hx
    cases hx
    rfl
  rw [if_neg hlen] at hx
  obtain ⟨copied, v, hv, hx⟩ := bind_ok.mp hx
  obtain ⟨hquiet, hnone, hcopy⟩ := jtoCString_ok hv
  cases copied with
  | none =>
    cases hx
    exact hquiet.calls
  | some data =>
    obtain ⟨bytes, hb, -⟩ := hcopy data rfl
    have hdata : (info.arg 1).isNullOrUndefined = false := by simpa using hnone
    refine absurd ⟨not_not.mp hargs, ?_, by simpa using hsock, by simpa using hlen, hdata, ?_⟩ h
    · simpa [Option.isSome_iff_ne_none] using hmod
    · rw [hb]
      rfl

theorem socketCloseCallback_calls {v : JsVal} {rest : List JsVal} (hargs : info.args = v :: rest) (hmod : info.mod.isSome)
    (hv : v.isNumber) : socketCloseCallback info w =
      .ok (.undefined, { w with calls := w.calls ++ [.mesiboUtilSocketClose (jtoCInt v)] }) := by
  have harg : info.arg 0 = v := by rw [CallInfo.arg, hargs]; rfl
  have hlen : ¬info.args.length < 1 := by rw [hargs]; simp
  have hnone : info.mod.isNone = false := by simpa [Option.isSome_iff_ne_none] using hmod
  rw [socketCloseCallback, if_neg hlen, hnone, harg, hv]
  rfl

end Calls

/-! ## The length -/

/-- A call of the host gets the socket the script gave, the copy of its data, and a length
    of some of that. -/
def WriteInside (P : Platform) (info : CallInfo) (w : World) : Prop :=
  ∀ r u, socketWriteCallback P info w = .ok (r, u) → u.calls = w.calls ∨
    ∃ sock data len, u.calls = w.calls ++ [.mesiboUtilSocketWrite sock data len] ∧
      (info.arg 0).isInt32 ∧ info.arg 0 = .num (.int sock.toInt) ∧
      (∃ bytes, P.toUtf8 (info.arg 1) w = some bytes ∧ data = .ofBytes bytes) ∧
      0 ≤ len.toInt ∧ len.toInt ≤ data.bytes.length

/-- The length is an int32, and one of the copy. -/
def LengthFits (P : Platform) (info : CallInfo) (w : World) : Prop :=
  (info.arg 2).isInt32 ∧ ∃ n : Int, info.arg 2 = .num (.int n) ∧ 0 ≤ n ∧
    ∀ bytes, P.toUtf8 (info.arg 1) w = some bytes → n ≤ (cstr bytes).length

theorem jtoCInt_int32 {v : JsVal} (h : v.isInt32) : v = .num (.int (jtoCInt v).toInt) := by
  cases v with
  | num n =>
    cases n with
    | int n =>
      have hn := h
      simp only [JsVal.isInt32, Bool.and_eq_true, decide_eq_true_eq] at hn
      have hr : (jtoCInt (.num (.int n))).toInt = n := by
        rw [jtoCInt, h]
        exact Int64.toInt_ofInt_of_le (by omega) (by omega)
      rw [hr]
    | other k => cases h
  | _ => cases h

theorem jtoCInt_other {v : JsVal} (h : ¬v.isInt32) : jtoCInt v = -1 := by
  rw [Bool.not_eq_true] at h
  rw [jtoCInt, h]
  rfl

/-- What a `write` inside its data that gets to the host calls it with. -/
theorem WriteInside.reached {info : CallInfo} {w : World} (h : WriteInside P info w) (hreach : WriteReaches P info w)
    {bytes : List UInt8} (hb : P.toUtf8 (info.arg 1) w = some bytes) :
    (info.arg 0).isInt32 ∧ 0 ≤ (jtoCInt (info.arg 2)).toInt ∧ (jtoCInt (info.arg 2)).toInt ≤ (cstr bytes).length := by
  obtain ⟨u, hu, hcalls⟩ := socketWriteCallback_calls hreach hb
  rcases h _ u hu with he | ⟨sock, data, len, he, hsock, -, -, h0, hle⟩
  · rw [hcalls] at he
    simp at he
  · rw [hcalls] at he
    simp only [List.append_cancel_left_eq, List.cons.injEq, HostCall.mesiboUtilSocketWrite.injEq, and_true] at he
    obtain ⟨-, rfl, rfl⟩ := he
    exact ⟨hsock, h0, hle⟩

/-- `write` stays inside its data exactly when it does not get to the host, or the script
    gives an int32 for the socket and another, no longer than the copy, for the length. -/
theorem write_inside_iff (P : Platform) (info : CallInfo) (w : World) :
    WriteInside P info w ↔ (WriteReaches P info w → (info.arg 0).isInt32 ∧ LengthFits P info w) := by
  constructor
  · intro h hreach
    obtain ⟨bytes, hb⟩ := Option.isSome_iff_exists.mp hreach.copy
    obtain ⟨hsock, h0, hle⟩ := h.reached hreach hb
    have h32 : (info.arg 2).isInt32 := by
      by_contra hn
      rw [jtoCInt_other hn] at h0
      exact absurd h0 (by decide)
    refine ⟨hsock, h32, _, jtoCInt_int32 h32, h0, fun bytes' hb' => ?_⟩
    cases hb.symm.trans hb'
    exact hle
  · intro h r u hu
    by_cases hreach : WriteReaches P info w
    · obtain ⟨bytes, hb⟩ := Option.isSome_iff_exists.mp hreach.copy
      obtain ⟨u', hu', hcalls⟩ := socketWriteCallback_calls hreach hb
      obtain ⟨hsock, h32, n, hn, h0, hle⟩ := h hreach
      cases hu'.symm.trans hu
      have hlen : (jtoCInt (info.arg 2)).toInt = n := by
        have := (jtoCInt_int32 h32).symm.trans hn
        simpa using this
      exact .inr ⟨_, _, _, hcalls, hsock, jtoCInt_int32 hsock, ⟨bytes, hb, rfl⟩, by omega,
        by rw [hlen]; exact hle bytes hb⟩
    · exact .inl (socketWriteCallback_refused hreach hu)

/-- 100 bytes of "a" are asked for. -/
theorem long_length_sent : ¬WriteInside .reference
    ⟨0, .external (some 0), [.num (.int 1), .str [0x61], .num (.int 100)], false, 0⟩ .empty := by
  intro h
  have hcopy : Platform.reference.toUtf8 (.str [0x61]) .empty = some [0x61] := by decide
  obtain ⟨-, -, hle⟩ := h.reached ⟨rfl, rfl, rfl, rfl, rfl, rfl⟩ hcopy
  exact absurd hle (by decide)

end MesiboV8
