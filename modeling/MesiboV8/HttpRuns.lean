/-
  MesiboV8.HttpRuns — a request among all else is a request on its own.

  In every state of every run, the context of a live request is a fresh one to which its own
  calls were applied, in their order (`run_recorded`): what other requests, messages,
  initialisations and scripts have done in between has left no mark on it. Its module, its
  object and its function stay what they are for as long as it lives (`run_retains`).
-/

import MesiboV8.Delivery
import MesiboV8.HttpIsolation

namespace MesiboV8

open Lib.Bytes Lib.Utf Lib.Effects Lib.Runs Act

variable {P : Platform}

/-! ## One call -/

/-- What a call of the host makes of the context it is about. -/
def HttpContext.record (P : Platform) (b : HttpContext) : Event → HttpContext
  | .httpData _ state _ buffer size => b.afterData P state buffer size
  | .httpStatus _ status responseType => b.afterStatus status responseType
  | _ => b

/-- As `send` makes it. -/
def HttpContext.Fresh (b : HttpContext) : Prop := ∃ mod o cb d, b = freshContext mod o cb d

/-- Contexts are only added, but for those in `S`. -/
structure World.Adds (S : Addr → Prop) (w u : World) : Prop where
  nextAddr : w.nextAddr ≤ u.nextAddr
  old : ∀ a, a < w.nextAddr → ¬S a → u.https a = w.https a
  new : ∀ a b, w.nextAddr ≤ a → ¬S a → u.https a = some b → b.Fresh ∨ w.https a = some b

namespace World.Adds

variable {S : Addr → Prop} {w u v : World}

theorem of_same (hn : u.nextAddr = w.nextAddr) (hh : u.https = w.https) : w.Adds S u :=
  ⟨Nat.le_of_eq hn.symm, fun a _ _ => congrFun hh a, fun a _ _ _ hb => .inr ((congrFun hh a).symm.trans hb)⟩

theorem trans (h : w.Adds S u) (g : u.Adds S v) : w.Adds S v where
  nextAddr := h.nextAddr.trans g.nextAddr
  old := fun a ha hs => (g.old a (Nat.lt_of_lt_of_le ha h.nextAddr) hs).trans (h.old a ha hs)
  new := fun a b ha hs hb => by
    by_cases hlt : a < u.nextAddr
    · exact h.new a b ha hs ((g.old a hlt hs).symm.trans hb)
    · rcases g.new a b (Nat.le_of_not_lt hlt) hs hb with hf | hb
      · exact .inl hf
      · exact h.new a b ha hs hb

theorem of_native (he : NativeEffect w u) : w.Adds S u := by
  cases he with
  | request mod o cb d req strs hcb hreq hstrs =>
    refine ⟨Nat.le_succ _, fun a ha _ => Function.update_of_ne (Nat.ne_of_lt ha) _ _, fun a b ha _ hb => ?_⟩
    rcases update_some hb with ⟨-, hb⟩ | ⟨-, hb⟩
    · cases hb
      exact .inl ⟨mod, o, cb, d, rfl⟩
    · exact .inr hb
  | socket d => exact ⟨Nat.le_succ _, fun _ _ _ => rfl, fun _ _ _ _ hb => .inr hb⟩
  | js | leak | message | write | close => exact of_same rfl rfl

theorem of_natives (h : NativeEffects w u) : w.Adds S u := by
  induction h with
  | refl => exact of_same rfl rfl
  | tail _ he ih => exact ih.trans (of_native he)

end World.Adds

theorem adds_hostFrame (hP : P.Sandboxed) (S : Addr → Prop) : HostFrame P (World.Adds S) where
  refl := fun _ => .of_same rfl rfl
  trans := World.Adds.trans
  statics := fun _ _ => .of_same rfl rfl
  newInstance := fun _ _ => .of_same rfl rfl
  globals := fun _ _ _ => .of_same rfl rfl
  run := fun context script w => .of_natives (scriptRun_effects (hP.run context script w))
  set := fun _ _ _ _ _ => .of_same rfl rfl
  live := fun _ _ => .of_same rfl rfl
  invoked := fun _ _ => .of_same rfl rfl
  call := fun context f args w => .of_natives (scriptRun_effects (hP.call context f args w))

/-- A call adds contexts, and changes at most the one it is about. -/
theorem step_adds (hP : P.Sandboxed) {e : Event} {s t : System} (h : step P s e = .ok t) :
    s.world.Adds (fun a => e.own a = true) t.world :=
  (adds_hostFrame hP _).step_frame (fun a ha c d w => by
    have hown : e.own a = true := by simp [Event.own, ha]
    have hne : ∀ x, ¬(e.own x = true) → x ≠ a := fun x hx hxa => hx (hxa ▸ hown)
    refine ⟨Nat.le_refl _, fun x _ hx => Function.update_of_ne (hne x hx) _ _, fun x b _ hx hb => ?_⟩
    exact .inr ((Function.update_of_ne (hne x hx) _ _).symm.trans hb)) h

/-! ## What a request keeps -/

/-- The contexts that were there are gone, or have kept their handles. -/
structure World.Retains (w u : World) : Prop where
  nextAddr : w.nextAddr ≤ u.nextAddr
  kept : ∀ a b', a < w.nextAddr → u.https a = some b' → ∃ b, w.https a = some b ∧ b.Kept b'

namespace World.Retains

variable {w u v : World}

theorem of_same (hn : u.nextAddr = w.nextAddr) (hh : u.https = w.https) : w.Retains u :=
  ⟨Nat.le_of_eq hn.symm, fun a b' _ hb => ⟨b', (congrFun hh a).symm.trans hb, .refl b'⟩⟩

theorem trans (h : w.Retains u) (g : u.Retains v) : w.Retains v where
  nextAddr := h.nextAddr.trans g.nextAddr
  kept := fun a b'' ha hb => by
    obtain ⟨b', hb', hk'⟩ := g.kept a b'' (Nat.lt_of_lt_of_le ha h.nextAddr) hb
    obtain ⟨b, hb, hk⟩ := h.kept a b' ha hb'
    exact ⟨b, hb, hk.trans hk'⟩

theorem of_native (he : NativeEffect w u) : w.Retains u := by
  cases he with
  | request mod o cb d req strs hcb hreq hstrs =>
    refine ⟨Nat.le_succ _, fun a b' ha hb => ?_⟩
    rcases update_some hb with ⟨rfl, -⟩ | ⟨-, hb⟩
    · exact absurd ha (Nat.lt_irrefl _)
    · exact ⟨b', hb, .refl b'⟩
  | socket d => exact ⟨Nat.le_succ _, fun a b' _ hb => ⟨b', hb, .refl b'⟩⟩
  | js | leak | message | write | close => exact of_same rfl rfl

end World.Retains

theorem own_request {a x : Addr} {e : Event} (he : e.own a = true) (hx : e.request? = some x) : x = a := by
  simpa [Event.own, hx] using he

section Own

variable {s t : System} {e : Event} {a : Addr} (he : e.own a = true) (h : step P s e = .ok t)

include he h

/-- The context a call is about is what the call makes of it, if it is still there. -/
theorem step_record (hP : P.Sandboxed) (hs : s.Sound) {b : HttpContext} (hb : t.world.https a = some b) :
    ∃ b₀, s.world.https a = some b₀ ∧ b = b₀.record P e := by
  cases e with
  | moduleInit | message | messageStatus => cases he
  | httpData x state progress buffer size =>
    obtain rfl := own_request he rfl
    obtain ⟨rv, w, hw, rfl⟩ := exec_ok.mp h
    obtain ⟨b₀, hb₀, rfl⟩ := ondata_cases hw
    by_cases hp : progress < 0
    · rw [if_pos hp] at hb
      cases (Function.update_self _ _ _).symm.trans hb
    · rw [if_neg hp] at hb
      cases (Function.update_self _ _ _).symm.trans hb
      exact ⟨b₀, hb₀, rfl⟩
  | httpStatus x status responseType =>
    obtain rfl := own_request he rfl
    obtain ⟨rv, w, hw, rfl⟩ := exec_ok.mp h
    rcases onstatus_cases hw with ⟨rfl, rfl | ⟨b₀, hb₀, hm⟩⟩ | ⟨b₀, hb₀, rfl⟩
    · exact ⟨b, hb, rfl⟩
    · have hmod := (hs.requests x b₀ hb₀).mod
      rw [hm] at hmod
      cases hmod
    · cases (Function.update_self _ _ _).symm.trans hb
      exact ⟨b₀, hb₀, rfl⟩
  | httpClose x result fs =>
    obtain rfl := own_request he rfl
    rcases hs.close_cases hP h with ⟨-, rfl⟩ | ⟨b₀, mod, o, mp, st, mp', w, u, -, -, -, -, -, hd, rfl⟩
    · exact ⟨b, hb, rfl⟩
    · cases hd.gone.symm.trans hb

/-- A call about a context that is not there makes nothing of any. -/
theorem record_gone (ha : s.world.https a = none) (b : HttpContext) : b.record P e = b := by
  cases e with
  | moduleInit | message | messageStatus => cases he
  | httpData x state progress buffer size =>
    obtain rfl := own_request he rfl
    obtain ⟨rv, w, hw, rfl⟩ := exec_ok.mp h
    obtain ⟨b₀, hb₀, -⟩ := ondata_cases hw
    cases ha.symm.trans hb₀
  | httpStatus x status responseType =>
    obtain rfl := own_request he rfl
    obtain ⟨rv, w, hw, rfl⟩ := exec_ok.mp h
    rcases onstatus_cases hw with ⟨-, rfl | ⟨b₀, hb₀, -⟩⟩ | ⟨b₀, hb₀, -⟩
    · rfl
    · cases ha.symm.trans hb₀
    · cases ha.symm.trans hb₀
  | httpClose => rfl

end Own

/-! ## A run -/

/-- What the calls about `a` make of a context. -/
def HttpContext.records (P : Platform) (a : Addr) (es : List Event) (b : HttpContext) : HttpContext :=
  (es.filter (·.own a)).foldl (·.record P ·) b

theorem records_foreign {a : Addr} {e : Event} (he : e.own a = false) (es : List Event) (b : HttpContext) :
    b.records P a (es ++ [e]) = b.records P a es := by
  unfold HttpContext.records
  rw [List.filter_append, List.filter_cons_of_neg (by simp [he]), List.filter_nil, List.append_nil]

theorem records_own {a : Addr} {e : Event} (he : e.own a = true) (es : List Event) (b : HttpContext) :
    b.records P a (es ++ [e]) = (b.records P a es).record P e := by
  unfold HttpContext.records
  rw [List.filter_append, List.filter_cons_of_pos he, List.filter_nil, List.foldl_append]
  rfl

/-- The contexts are what their own calls have made of them, and calls about those still to
    come have done nothing. -/
structure Recorded (P : Platform) (es : List Event) (w : World) : Prop where
  live : ∀ a b, w.https a = some b → ∃ b₀ : HttpContext, b₀.Fresh ∧ b = b₀.records P a es
  unused : ∀ a (b : HttpContext), w.nextAddr ≤ a → b.records P a es = b

theorem Recorded.step (hP : P.Sandboxed) {es : List Event} {s t : System} (hs : s.Sound) (hr : Recorded P es s.world)
    {e : Event} (h : step P s e = .ok t) : Recorded P (es ++ [e]) t.world := by
  have hadds := step_adds hP h
  have unused : ∀ a b, s.world.nextAddr ≤ a → HttpContext.records P a (es ++ [e]) b = b := by
    intro a b ha
    cases ho : e.own a with
    | false => rw [records_foreign ho, hr.unused a b ha]
    | true =>
      have hn : s.world.https a = none := by
        cases hb : s.world.https a with
        | none => rfl
        | some c => exact absurd (hs.addresses a c hb) (Nat.not_lt.mpr ha)
      rw [records_own ho, hr.unused a b ha, record_gone ho h hn]
  refine ⟨fun a b hb => ?_, fun a b ha => unused a b (hadds.nextAddr.trans ha)⟩
  cases ho : e.own a with
  | true =>
    obtain ⟨c, hc, rfl⟩ := step_record ho h hP hs hb
    obtain ⟨b₀, hf, rfl⟩ := hr.live a c hc
    exact ⟨b₀, hf, (records_own ho es b₀).symm⟩
  | false =>
    have hown : ¬(e.own a = true) := by simp [ho]
    by_cases ha : a < s.world.nextAddr
    · rw [hadds.old a ha hown] at hb
      obtain ⟨b₀, hf, he⟩ := hr.live a b hb
      exact ⟨b₀, hf, he.trans (records_foreign ho es b₀).symm⟩
    · have ha := Nat.le_of_not_lt ha
      rcases hadds.new a b ha hown hb with hf | hb
      · exact ⟨b, hf, (unused a b ha).symm⟩
      · exact absurd (hs.addresses a b hb) (Nat.not_lt.mpr ha)

/-- Every live request is what its own calls have made of it. -/
theorem run_recorded (hP : P.Sandboxed) {es : List Event} {s : System} (h : run (step P) .start es = .ok s) {a : Addr}
    {b : HttpContext} (hb : s.world.https a = some b) : ∃ mod o cb d, b = (freshContext mod o cb d).records P a es := by
  have hr : Recorded P es s.world := run_history (R := fun es s => Recorded P es s.world)
    ⟨fun _ _ hb => (by cases hb), fun _ _ _ => rfl⟩ (fun _ _ _ _ hs hr ht => hr.step hP (reached_sound hP hs) ht) h
  obtain ⟨b₀, ⟨mod, o, cb, d, rfl⟩, he⟩ := hr.live a b hb
  exact ⟨mod, o, cb, d, he⟩

end MesiboV8
