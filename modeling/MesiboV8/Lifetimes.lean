/-
  MesiboV8.Lifetimes — how long a request lives.

  A request lives from the `send` that hands it to the host to the first call that ends it:
  an `ondata` with negative progress, or an `onclose` that is not a failure. No other call,
  and no script, takes it away or brings it back (`run_lifetimes`). So memory that was freed
  is only touched by a host that calls back about a request it was never given, or has
  ended (`run_useAfterFree_iff`).
-/

import MesiboV8.Faults

namespace MesiboV8

open Lib.Bytes Lib.Utf Lib.Effects Lib.Runs Lib.Tokens Act

variable {P : Platform}

/-! ## Ends -/

/-- The request the call ends. -/
def Event.ends? (P : Platform) : Event → Option Addr
  | .httpData a _ progress _ _ => if progress < 0 then some a else none
  | .httpClose a result _ => if result = P.MESIBO_RESULT_FAIL then none else some a
  | _ => none

theorem destroyed_hostFrame (hP : P.Sandboxed) : HostFrame P fun w u => u.destroyed = w.destroyed where
  refl := fun _ => rfl
  trans := fun h g => g.trans h
  statics := fun _ _ => rfl
  newInstance := fun _ _ => rfl
  globals := fun _ _ _ => rfl
  run := fun context script w => (scriptRun_extends (hP.run context script w)).destroyed
  set := fun _ _ _ _ _ => rfl
  live := fun _ _ => rfl
  invoked := fun _ _ => rfl
  call := fun context f args w => (scriptRun_extends (hP.call context f args w)).destroyed

/-- What a call frees is what it ends. -/
theorem step_destroyed (hP : P.Sandboxed) {s t : System} (hs : s.Sound) {e : Event} (h : step P s e = .ok t) :
    t.world.destroyed = s.world.destroyed ++ (e.ends? P).toList := by
  have spared : e.request? = none → t.world.destroyed = s.world.destroyed := fun he =>
    (destroyed_hostFrame hP).step_frame (fun a ha => by cases he.symm.trans ha) h
  cases e with
  | moduleInit | message | messageStatus => exact (spared rfl).trans (List.append_nil _).symm
  | httpData a state progress buffer size =>
    obtain ⟨rv, w, hw, rfl⟩ := exec_ok.mp h
    obtain ⟨b, -, rfl⟩ := ondata_cases hw
    show _ = _ ++ (if progress < 0 then some a else none).toList
    split
    · rfl
    · exact (List.append_nil _).symm
  | httpStatus a status responseType =>
    obtain ⟨rv, w, hw, rfl⟩ := exec_ok.mp h
    show w.destroyed = s.world.destroyed ++ []
    rw [List.append_nil]
    rcases onstatus_cases hw with ⟨rfl, -⟩ | ⟨b, -, rfl⟩ <;> rfl
  | httpClose a result fs =>
    rcases hs.close_cases hP h with ⟨hr, rfl⟩ | ⟨b, mod, o, mp, st, mp', w, u, hr, -, -, -, hg, hd, rfl⟩
    · rw [Event.ends?, if_pos hr]
      exact (List.append_nil _).symm
    · rw [Event.ends?, if_neg hr]
      exact hd.destroyed.trans (congrArg (· ++ [a]) (getContext_extends hP hg).destroyed)

theorem reached_sound (hP : P.Sandboxed) {s : System} (h : Reached (step P) .start s) : s.Sound := by
  obtain ⟨es, h⟩ := h
  exact run_sound hP h

/-- A run frees what its calls end, in that order. -/
theorem run_destroyed (hP : P.Sandboxed) {es : List Event} {s : System} (h : run (step P) .start es = .ok s) :
    s.world.destroyed = es.filterMap (·.ends? P) := by
  have hstep : ∀ s e t, Reached (step P) .start s → step P s e = .ok t →
      t.world.destroyed = s.world.destroyed ++ (e.ends? P).toList := fun s e t hs ht =>
    step_destroyed hP (reached_sound hP hs) ht
  rw [run_log hstep h, ← List.filterMap_eq_flatMap_toList]
  rfl

section Books

variable (hP : P.Sandboxed) {es : List Event} {s : System} (h : run (step P) .start es = .ok s)

include hP h

theorem run_settled : ∃ l : Ledger Addr, Books s.world l ∧ ∀ a, a ∈ l.settled ↔ ∃ e ∈ es, e.ends? P = some a := by
  obtain ⟨l, -, hl⟩ := run_books hP h
  refine ⟨l, hl, fun a => ?_⟩
  rw [← hl.destroyed, run_destroyed hP h, List.mem_filterMap]

/-- A request is there from when the host is given it until a call ends it. -/
theorem run_live (a : Addr) : (s.world.https a).isSome ↔ a ∈ s.world.given ∧ ∀ e ∈ es, e.ends? P ≠ some a := by
  obtain ⟨l, hl, hends⟩ := run_settled hP h
  rw [hl.contexts, hl.given, Ledger.Open, hends]
  simp

/-- What was given to the host in a run is there or was ended by a call of it, which ended
    nothing else and ended it once. -/
theorem run_lifetimes : s.world.destroyed = es.filterMap (·.ends? P) ∧ (es.filterMap (·.ends? P)).Nodup ∧
    (∀ e ∈ es, ∀ a, e.ends? P = some a → a ∈ s.world.given) ∧
    ∀ a, (s.world.https a).isSome ↔ a ∈ s.world.given ∧ ∀ e ∈ es, e.ends? P ≠ some a := by
  obtain ⟨l, hl, hends⟩ := run_settled hP h
  have hd := run_destroyed hP h
  refine ⟨hd, ?_, fun e he a ha => ?_, run_live hP h⟩
  · rw [← hd, hl.destroyed]
    exact l.settled_nodup
  · rw [hl.given]
    exact l.settled_issued a ((hends a).mpr ⟨e, he, ha⟩)

end Books

theorem run_lifetimes_fetching : ∃ s, run (step .fetching) .start fetchingRun = .ok s ∧
    fetchingRun.filterMap (·.ends? .fetching) = [0, 1] ∧ s.world.destroyed = [0, 1] ∧ (s.world.https 2).isSome := by
  obtain ⟨s, h, hg⟩ : ∃ s, run (step .fetching) .start fetchingRun = .ok s ∧ s.world.given = [0, 1, 2] := ⟨_, rfl, rfl⟩
  have hends : fetchingRun.filterMap (·.ends? .fetching) = [0, 1] := rfl
  obtain ⟨hd, -, -, hlive⟩ := run_lifetimes (Platform.calling_sandboxed _) h
  refine ⟨s, h, hends, hd.trans hends, (hlive 2).mpr ⟨by simp [hg], fun e he h2 => ?_⟩⟩
  have hm : 2 ∈ fetchingRun.filterMap (·.ends? .fetching) := List.mem_filterMap.mpr ⟨e, he, h2⟩
  rw [hends] at hm
  simp at hm

/-! ## Memory that is gone -/

/-- The request whose context the call reads. -/
def Event.touches? (P : Platform) : Event → Option Addr
  | .httpData a .. => some a
  | .httpStatus a _ responseType => if responseType.isSome then some a else none
  | .httpClose a result _ => if result = P.MESIBO_RESULT_FAIL then none else some a
  | _ => none

theorem fails_useAfterFree_iff {s : System} {e : Event} :
    e.Fails P s .useAfterFree ↔ ∃ a, e.touches? P = some a ∧ s.world.https a = none := by
  cases e with
  | moduleInit m config fs => simp [Event.Fails, Event.touches?, InitFails]
  | message mod p message len fs => simp [Event.Fails, Event.touches?, ListenerFails, CallbackFails, ArgumentFails]
  | messageStatus mod p status fs => simp [Event.Fails, Event.touches?, ListenerFails, CallbackFails, ArgumentFails]
  | httpData a state progress buffer size => simp [Event.Fails, Event.touches?]
  | httpStatus a status responseType => cases responseType <;> simp [Event.Fails, Event.touches?]
  | httpClose a result fs =>
    by_cases hr : result = P.MESIBO_RESULT_FAIL <;> simp [Event.Fails, Event.touches?, hr]

/-- Freed memory is touched by the first call about a request that was never given to the
    host, or that an earlier call has ended, and by nothing else. -/
theorem run_useAfterFree_iff (hP : P.Sandboxed) {es : List Event} :
    run (step P) .start es = .error .useAfterFree ↔ ∃ before e after s a, es = before ++ e :: after ∧
      run (step P) .start before = .ok s ∧ e.touches? P = some a ∧
      (a ∉ s.world.given ∨ ∃ x ∈ before, x.ends? P = some a) := by
  have gone : ∀ {before s a}, run (step P) .start before = .ok s →
      (s.world.https a = none ↔ a ∉ s.world.given ∨ ∃ x ∈ before, x.ends? P = some a) := by
    intro before s a hs
    rw [← Option.not_isSome_iff_eq_none, run_live hP hs, not_and_or]
    simp
  rw [run_error]
  constructor
  · intro h
    obtain ⟨before, e, after, s, hes, hs, he⟩ := h
    obtain ⟨a, ha, hn⟩ := fails_useAfterFree_iff.mp ((step_fails_iff hP (run_sound hP hs)).mp he)
    exact ⟨before, e, after, s, a, hes, hs, ha, (gone hs).mp hn⟩
  · intro h
    obtain ⟨before, e, after, s, a, hes, hs, ha, hn⟩ := h
    refine ⟨before, e, after, s, hes, hs, (step_fails_iff hP (run_sound hP hs)).mpr ?_⟩
    exact fails_useAfterFree_iff.mpr ⟨a, ha, (gone hs).mpr hn⟩

theorem run_useAfterFree_fetching : run (step .fetching) .start (fetchingRun ++ [.httpData 0 4 50 none 0]) =
    .error .useAfterFree := by
  obtain ⟨s, h⟩ : ∃ s, run (step .fetching) .start fetchingRun = .ok s := ⟨_, rfl⟩
  have hend : ∃ x ∈ fetchingRun, x.ends? .fetching = some 0 := ⟨.httpClose 0 0 ⟨some 1, true, some []⟩, by
    simp [fetchingRun], rfl⟩
  exact (run_useAfterFree_iff (Platform.calling_sandboxed _)).mpr
    ⟨fetchingRun, _, [], s, 0, rfl, h, rfl, .inr hend⟩

end MesiboV8
