/-
  MesiboV8.SocketHandles — a socket's handle on its way through a script.

  `js_mesibo_socket_onconnect` shows the handle as an unsigned number of 32 bits
  (`handed_value`), and `write` and `close` read numbers as signed ones, with -1 for the
  rest. So a handle comes back as it was if it is a non-negative int32, or the -1 that any
  other comes back as (`handle_back_iff`).
-/

import MesiboV8.HttpClose
import MesiboV8.SocketWrite

namespace MesiboV8

open Lib.Bytes Lib.Utf Lib.Effects Act

variable {P : Platform}

/-! ## To the script -/

/-- An `onconnect` for `asock` calls a function of the script with `v`. -/
def Handed (P : Platform) (asock : Int64) (v : JsVal) : Prop :=
  ∃ a fd fs s s' i d, jsMesiboSocketOnconnect P a asock fd fs s = .ok s' ∧
    s'.world.invoked = s.world.invoked ++ [i] ∧ i.args = [d, v]

theorem derefSocket_ok {a : Addr} {w u : World} {sc : SocketContext} (h : derefSocket a w = .ok (sc, u)) :
    w.sockets a = some sc ∧ u = w := by
  rw [derefSocket, get_bind] at h
  cases hs : w.sockets a with
  | none => rw [hs] at h; cases h
  | some b => rw [hs] at h; cases h; exact ⟨rfl, rfl⟩

/-- A delivery of `onconnect` calls no function, or one with its number for the handle. -/
theorem deliverConnect_ok (hP : P.Sandboxed) {context : Option CtxId} {a : Addr} {asock : Int64} {w u : World}
    (h : deliverConnect P context a asock w = .ok ((), u)) : u = w ∨ ∃ f d heap,
      u.invoked = w.invoked ++ [⟨f, [d, .ofUint32 asock.toUInt64.toUInt32], heap⟩] := by
  rw [deliverConnect, bind_ok] at h
  obtain ⟨sc, v, hsc, h⟩ := h
  obtain ⟨-, rfl⟩ := derefSocket_ok hsc
  cases hf : sc.jsOnconnect with
  | none => rw [hf] at h; cases h
  | some f =>
    rw [hf] at h
    by_cases hnull : f.isNullOrUndefined
    · simp only [hnull] at h
      cases h
      exact .inl rfl
    · simp only [hnull] at h
      obtain ⟨rv, x, hx, h⟩ := bind_ok.mp h
      cases h
      cases context with
      | none => obtain ⟨_ | d, _, _, _⟩ := sc <;> cases hx
      | some context =>
        obtain ⟨_ | d, _, _, _⟩ := sc
        · cases hx
        · cases hx
          exact .inr ⟨f, d, v.heap, (executeJsFunctionObj_extends hP context f _ v).invoked⟩

/-- An event on a socket comes to nothing, or is delivered in the context it found. -/
theorem onSocket_ok {α : Type} {a : Addr} {fs : ScriptFile} {deliver : Option CtxId → Act α} {s s' : System} {r : Option α}
    (h : onSocket P a fs deliver s = .ok (r, s')) : s' = s ∨ ∃ mp st mp' w x u,
      getContext P mp fs s.world = .ok (st, mp', w) ∧ deliver mp'.context_ w = .ok (x, u) ∧ s'.world = u := by
  unfold onSocket at h
  cases hb : s.world.sockets a with
  | none => rw [hb] at h; cases h
  | some b =>
    rw [hb] at h
    dsimp only at h
    cases hm : b.mod with
    | none => rw [hm] at h; cases h; exact .inl rfl
    | some mod =>
      rw [hm] at h
      dsimp only at h
      cases hvc : s.configs mod with
      | none => rw [hvc] at h; cases h
      | some vc =>
        rw [hvc] at h
        dsimp only at h
        cases hctx : vc.ctx with
        | none => rw [hctx] at h; cases h; exact .inl rfl
        | some mp =>
          rw [hctx] at h
          dsimp only at h
          cases hg : getContext P mp fs s.world with
          | error f => rw [hg] at h; cases h
          | ok g =>
            obtain ⟨st, mp', w⟩ := g
            rw [hg] at h
            dsimp only at h
            cases hd : deliver mp'.context_ w with
            | error f => rw [hd] at h; cases h
            | ok x =>
              obtain ⟨x, u⟩ := x
              rw [hd] at h
              cases h
              exact .inr ⟨mp, st, mp', w, x, u, hg, hd, rfl⟩

theorem handed_value (hP : P.Sandboxed) {asock : Int64} {v : JsVal} (h : Handed P asock v) :
    v = .ofUint32 asock.toUInt64.toUInt32 := by
  obtain ⟨a, fd, fs, s, s', i, d, h, hinv, hargs⟩ := h
  rw [jsMesiboSocketOnconnect] at h
  cases ho : onSocket P a fs (deliverConnect P · a asock) s with
  | error f => rw [ho] at h; cases h
  | ok r =>
    rw [ho] at h
    cases h
    rcases onSocket_ok ho with he | ⟨mp, st, mp', w, x, u, hg, hd, hu⟩
    · rw [he] at hinv
      simp at hinv
    · rw [hu] at hinv
      have hw : w.invoked = s.world.invoked := (getContext_extends hP hg).invoked
      rcases deliverConnect_ok hP hd with rfl | ⟨f, d', heap, hcall⟩
      · rw [hw] at hinv
        simp at hinv
      · rw [hcall, hw] at hinv
        cases List.append_cancel_left hinv
        cases hargs
        rfl

/-! ## And back -/

/-- `write` and `close` called with `v` for the socket ask the host for `handle`. -/
structure UsedAs (P : Platform) (v : JsVal) (handle : Int64) : Prop where
  write : ∀ info w data len bytes, info.args = [v, data, len] → info.mod.isSome → len.isNumber →
    data.isNullOrUndefined = false → P.toUtf8 data w = some bytes →
    ∃ u, socketWriteCallback P info w = .ok (.undefined, u) ∧
      u.calls = w.calls ++ [.mesiboUtilSocketWrite handle (.ofBytes bytes) (jtoCInt len)]
  close : ∀ info w rest, info.args = v :: rest → info.mod.isSome →
    ∃ u, socketCloseCallback info w = .ok (.undefined, u) ∧ u.calls = w.calls ++ [.mesiboUtilSocketClose handle]

theorem usedAs_iff {v : JsVal} (hv : v.isNumber) (handle : Int64) : UsedAs P v handle ↔ handle = jtoCInt v := by
  constructor
  · intro h
    let info : CallInfo := ⟨0, .external (some 0), [v], false, 0⟩
    have hargs : info.args = [v] := rfl
    obtain ⟨u, hu, hcalls⟩ := h.close info .empty [] hargs rfl
    have hclose := socketCloseCallback_calls (w := .empty) hargs rfl hv
    cases hclose.symm.trans hu
    simpa using hcalls.symm
  · intro h
    subst h
    constructor
    · intro info w data len bytes hargs hmod hlen hdata hbytes
      have h0 : info.arg 0 = v := by rw [CallInfo.arg, hargs]; rfl
      have h1 : info.arg 1 = data := by rw [CallInfo.arg, hargs]; rfl
      have h2 : info.arg 2 = len := by rw [CallInfo.arg, hargs]; rfl
      have hreach : WriteReaches P info w :=
        ⟨by rw [hargs]; rfl, hmod, by rw [h0]; exact hv, by rw [h2]; exact hlen, by rw [h1]; exact hdata,
          by rw [h1, hbytes]; rfl⟩
      obtain ⟨u, hu, hcalls⟩ := socketWriteCallback_calls hreach (by rw [h1]; exact hbytes)
      rw [h0, h2] at hcalls
      exact ⟨u, hu, hcalls⟩
    · intro info w rest hargs hmod
      exact ⟨_, socketCloseCallback_calls hargs hmod hv, rfl⟩

/-- A handle that the script's number for it is read as. -/
def HandleFits (asock : Int64) : Prop := asock = -1 ∨ 0 ≤ asock.toInt ∧ asock.toInt < 2 ^ 31

theorem uint32_of_handle (asock : Int64) : (asock.toUInt64.toUInt32.toNat : Int) = asock.toInt % 2 ^ 32 := by
  have hnat : asock.toUInt64.toNat = asock.toBitVec.toNat := rfl
  have hint : asock.toInt = asock.toBitVec.toInt := rfl
  rw [UInt64.toNat_toUInt32, hnat, hint, BitVec.toInt_eq_toNat_cond]
  split <;> omega

theorem handle_back_iff (asock : Int64) : asock = jtoCInt (.ofUint32 asock.toUInt64.toUInt32) ↔ HandleFits asock := by
  have hx := uint32_of_handle asock
  have h₁ := asock.le_toInt
  have h₂ := asock.toInt_lt
  by_cases h32 : (JsVal.ofUint32 asock.toUInt64.toUInt32).isInt32
  · have hback : (asock.toUInt64.toUInt32.toNat : Int) = (jtoCInt (.ofUint32 asock.toUInt64.toUInt32)).toInt := by
      have := jtoCInt_int32 h32
      simpa [JsVal.ofUint32] using this
    have hlt : (asock.toUInt64.toUInt32.toNat : Int) < 2 ^ 31 := by
      simp only [JsVal.ofUint32, JsVal.isInt32, Bool.and_eq_true, decide_eq_true_eq] at h32
      exact h32.2
    rw [← Int64.toInt_inj, ← hback, hx]
    unfold HandleFits
    constructor
    · intro h
      exact .inr (by omega)
    · intro h
      rcases h with rfl | h
      · rw [hx] at hlt
        exact absurd hlt (by decide)
      · omega
  · rw [jtoCInt_other h32]
    refine ⟨.inl, fun h => h.resolve_right fun hr => h32 ?_⟩
    simp only [JsVal.ofUint32, JsVal.isInt32, Bool.and_eq_true, decide_eq_true_eq]
    omega

/-- Two handles come back as they were; if they differ their numbers do, and only -1 comes
    back as -1. -/
structure HandlesSurvive (P : Platform) (asock asock' : Int64) (v v' : JsVal) : Prop where
  first : UsedAs P v asock
  second : UsedAs P v' asock'
  apart : asock ≠ asock' → ∀ handle, UsedAs P v handle → ¬UsedAs P v' handle
  noError : asock ≠ -1 → ¬UsedAs P v (-1)

/-- Any two handles survive a trip through a script exactly if each of them is a
    non-negative int32 or -1. -/
theorem handles_survive_iff (hP : P.Sandboxed) {asock asock' : Int64} {v v' : JsVal} (h : Handed P asock v)
    (h' : Handed P asock' v') : HandlesSurvive P asock asock' v v' ↔ HandleFits asock ∧ HandleFits asock' := by
  obtain rfl := handed_value hP h
  obtain rfl := handed_value hP h'
  have used : ∀ x handle : Int64, UsedAs P (.ofUint32 x.toUInt64.toUInt32) handle ↔
      handle = jtoCInt (.ofUint32 x.toUInt64.toUInt32) := fun x handle => usedAs_iff rfl handle
  rw [← handle_back_iff, ← handle_back_iff]
  constructor
  · intro hs
    exact ⟨(used _ _).mp hs.first, (used _ _).mp hs.second⟩
  · intro hs
    obtain ⟨hb, hb'⟩ := hs
    refine ⟨(used _ _).mpr hb, (used _ _).mpr hb', fun hne handle hu hu' => hne ?_, fun hne hu => hne ?_⟩
    · rw [hb, ← (used _ _).mp hu, (used _ _).mp hu', ← hb']
    · rw [hb, ← (used _ _).mp hu]

/-- A module with a socket whose `onconnect` is a function, prepared as `connect` is meant to do it: the contexts it
    does leave have no module, so no run of the process hands a handle to a script. -/
def System.connecting : System where
  world := { World.empty with
    sockets := fun _ => some { jsCbdata := some .null, jsOnconnect := some (.func 1), mod := some 0 }
    nextAddr := 1 }
  configs := fun _ => some ⟨some .sample⟩
  nextIsolate := 1
  locker := false

theorem connecting_hands (asock : Int64) : Handed .reference asock (.ofUint32 asock.toUInt64.toUInt32) :=
  ⟨0, 0, ⟨some 1, true, some []⟩, .connecting, _, _, .null, rfl, rfl, rfl⟩

theorem handles_survive_iff_small : HandlesSurvive .reference 7 8 (.num (.int 7)) (.num (.int 8)) ↔
    HandleFits 7 ∧ HandleFits 8 :=
  handles_survive_iff Platform.reference_sandboxed (connecting_hands 7) (connecting_hands 8)

/-- 2^31 comes back as -1. -/
theorem large_handle_lost : ¬∀ (asock asock' : Int64) (v v' : JsVal), Handed .reference asock v →
    Handed .reference asock' v' → HandlesSurvive .reference asock asock' v v' := by
  intro h
  have hs := h 0x80000000 7 _ _ (connecting_hands 0x80000000) (connecting_hands 7)
  have := (usedAs_iff rfl _).mp hs.first
  exact absurd this (by decide)

end MesiboV8
