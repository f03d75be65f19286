/-
  MesiboV8.Leaks — what a process never gives back.

  Besides contexts of requests, nothing that is there when the host calls is ever freed: a
  run only adds blocks (`Grows`). It adds a `mesibo_http_t` for each request, and a string for
  each payload that was sent, for each `to` and `from` of a message and for each path of a
  script (`run_leaks`), so memory grows with the traffic.
-/

import MesiboV8.HttpLedger

namespace MesiboV8

open Lib.Bytes Lib.Utf Lib.Effects Lib.Runs Act Relation

variable {P : Platform}

def HostCall.isMessage : HostCall → Bool
  | .mesiboMessage .. => true
  | _ => false

def HostCall.isRequest : HostCall → Bool
  | .mesiboUtilHttp .. => true
  | _ => false

/-- `u` has these blocks and calls more than `w`: the strings `copies`, one for each message sent, and
    the options of each request. -/
structure Grows (copies : List Block) (w u : World) (blocks : List Block) (calls : List HostCall) : Prop where
  live : u.live = blocks ++ w.live
  asked : u.calls = w.calls ++ calls
  strings : copies.length + calls.countP (·.isMessage) ≤ blocks.count .str
  requests : calls.countP (·.isRequest) = blocks.count .http

namespace Grows

variable {w u v : World} {c d l m : List Block} {cs ds : List HostCall}

theorem refl (w : World) : Grows [] w w [] [] := ⟨rfl, (List.append_nil _).symm, Nat.le_refl _, rfl⟩

theorem trans (h : Grows c w u l cs) (g : Grows d u v m ds) : Grows (c ++ d) w v (m ++ l) (cs ++ ds) where
  live := by rw [g.live, h.live, List.append_assoc]
  asked := by rw [g.asked, h.asked, List.append_assoc]
  strings := by
    have hs := h.strings
    have gs := g.strings
    rw [List.length_append, List.countP_append, List.count_append]
    omega
  requests := by rw [List.countP_append, List.count_append, h.requests, g.requests, Nat.add_comm]

/-- Strings that are copied. -/
theorem copied {c : List Block} (hc : ∀ b ∈ c, b = .str) (w : World) : Grows c w { w with live := c ++ w.live } c [] where
  live := rfl
  asked := (List.append_nil _).symm
  strings := by
    rw [List.count_eq_length.mpr fun b hb => (hc b hb).symm]
    exact Nat.le_refl _
  requests := by
    have hn : c.count .http = 0 := List.count_eq_zero.mpr fun hm => nomatch hc _ hm
    rw [hn]
    rfl

/-- Neither blocks nor calls are touched. -/
theorem spared (hl : u.live = w.live) (hc : u.calls = w.calls) : Grows [] w u [] [] :=
  ⟨hl, hc.trans (List.append_nil _).symm, Nat.le_refl _, rfl⟩

end Grows

theorem native_grows {w u : World} (he : NativeEffect w u) : ∃ l cs, Grows [] w u l cs := by
  cases he with
  | js => exact ⟨[], [], .spared rfl rfl⟩
  | leak b hb =>
    have hn : [b].count .http = 0 := List.count_singleton.trans (by simp [hb])
    exact ⟨[b], [], rfl, (List.append_nil _).symm, Nat.zero_le _, hn.symm⟩
  | message mod p s len hf => exact ⟨[.str], [_], rfl, rfl, by simp [HostCall.isMessage], by simp [HostCall.isRequest]⟩
  | request mod o cb d req strs hcb hreq hstrs =>
    have hn : strs.count .http = 0 := List.count_eq_zero.mpr fun hm => nomatch hstrs _ hm
    refine ⟨strs ++ [.http], [_], by simp, rfl, by simp [HostCall.isMessage], ?_⟩
    rw [List.count_append, hn]
    simp [HostCall.isRequest]
  | socket d => exact ⟨[], [], .spared rfl rfl⟩
  | write sock data len hf => exact ⟨[], [_], rfl, rfl, by simp [HostCall.isMessage], by simp [HostCall.isRequest]⟩
  | close sock hf => exact ⟨[], [_], rfl, rfl, by simp [HostCall.isMessage], by simp [HostCall.isRequest]⟩

theorem host_grows {w u : World} (he : HostEffect w u) : ∃ l cs, Grows [] w u l cs := by
  cases he with
  | load he =>
    cases he with
    | native he => exact native_grows he
    | templates | globals => exact ⟨[], [], .spared rfl rfl⟩
  | invoke | store | destroy => exact ⟨[], [], .spared rfl rfl⟩

theorem HostEffects.grows {w u : World} (h : HostEffects w u) : ∃ l cs, Grows [] w u l cs := by
  induction h with
  | refl => exact ⟨[], [], .refl w⟩
  | tail _ he ih =>
    obtain ⟨l, cs, hl⟩ := ih
    obtain ⟨m, ds, hm⟩ := host_grows he
    exact ⟨_, _, hl.trans hm⟩

theorem step_grows (hP : P.Sandboxed) {e : Event} {s t : System} (h : step P s e = .ok t) :
    ∃ l cs, Grows e.copies s.world t.world l cs := by
  obtain ⟨l, cs, hl⟩ := (step_copies hP h).grows
  have hg := (Grows.copied e.copies_str s.world).trans hl
  rw [List.append_nil] at hg
  exact ⟨_, _, hg⟩

/-- Whatever a run does, it frees nothing that was there, and leaves a string for each that its calls copy and for
    each message that it sends, and the options of each request. -/
theorem run_leaks (hP : P.Sandboxed) {es : List Event} {s t : System} (h : run (step P) s es = .ok t) :
    ∃ blocks calls, t.world.live = blocks ++ s.world.live ∧ t.world.calls = s.world.calls ++ calls ∧
      (es.flatMap (·.copies)).length + calls.countP (·.isMessage) ≤ blocks.count .str ∧
      calls.countP (·.isRequest) = blocks.count .http := by
  have hgrows : ∃ l cs, Grows (es.flatMap (·.copies)) s.world t.world l cs := by
    rw [List.flatMap_eq_foldl]
    refine run_rel (R := fun t c => ∃ l cs, Grows c s.world t.world l cs) ?_ ⟨[], [], .refl s.world⟩ h
    intro u e v c hu hv
    obtain ⟨l, cs, hl⟩ := hu
    obtain ⟨m, ds, hm⟩ := step_grows hP hv
    exact ⟨_, _, hl.trans hm⟩
  obtain ⟨l, cs, hl⟩ := hgrows
  exact ⟨l, cs, hl.live, hl.asked, hl.strings, hl.requests⟩

/-- A script that sends a message whenever it runs: when it is loaded, and at the message it gets. -/
theorem run_leaks_sending : ∃ t blocks calls, run (step (.calling .messageCallback)) .start (fetchingRun.take 2) = .ok t ∧
    t.world.calls = calls ∧ calls.countP (·.isMessage) = 2 ∧ 5 ≤ blocks.count .str ∧ t.world.live = blocks := by
  obtain ⟨t, h, hm⟩ : ∃ t, run (step (.calling .messageCallback)) .start (fetchingRun.take 2) = .ok t ∧
    t.world.calls.countP (·.isMessage) = 2 := ⟨_, rfl, rfl⟩
  obtain ⟨blocks, calls, hl, hc, hs, -⟩ := run_leaks (Platform.calling_sandboxed _) h
  have hcalls : t.world.calls = calls := hc
  have hlive : t.world.live = blocks := hl.trans (List.append_nil _)
  rw [← hcalls, hm] at hs
  exact ⟨t, blocks, calls, h, hcalls, hcalls ▸ hm, hs, hlive⟩

end MesiboV8
