/-
  MesiboV8.HttpLedger — every request is accounted for.

  The requests of a process are a ledger of tokens: `mesibo_util_http` issues the address of a
  new context, `mesibo_js_destroy_http_context` settles it. `Books` says how a world keeps
  that ledger; every effect of a call of the host is a booking or none (`host_books`), so
  every run keeps one from the empty ledger on (`run_books`). That is to say
  (`run_accounted`): no context is lost, handed to the host twice or freed twice, whatever
  the scripts do and however the host's calls are interleaved.
-/

import MesiboV8.HostEffects
import MesiboV8.HttpLife
import MesiboV8.Lib.Tokens

namespace MesiboV8

open Lib.Bytes Lib.Utf Lib.Effects Lib.Runs Lib.Tokens Act Relation

variable {P : Platform}

/-! ## Books -/

/-- The context a host call hands over. -/
def HostCall.request? : HostCall → Option Addr
  | .mesiboUtilHttp _ a => some a
  | _ => none

/-- The contexts the host was given, in order. -/
def World.given (w : World) : List Addr := w.calls.filterMap (·.request?)

structure Books (w : World) (l : Ledger Addr) : Prop where
  given : w.given = l.issued
  destroyed : w.destroyed = l.settled
  contexts : ∀ a, (w.https a).isSome ↔ l.Open a
  sockets : ∀ a, (w.sockets a).isSome ↔ a < w.nextAddr ∧ a ∉ l.issued
  ordered : l.issued.Pairwise (· < ·)
  below : ∀ a ∈ l.issued, a < w.nextAddr
  /-- A `mesibo_http_t` for each. -/
  options : w.live.count .http = l.issued.length

theorem empty_books : Books .empty .empty where
  given := rfl
  destroyed := rfl
  contexts := fun a => by simp [World.empty]
  sockets := fun a => by simp [World.empty]
  ordered := .nil
  below := nofun
  options := rfl

namespace Books

variable {w u : World} {l : Ledger Addr}

theorem fresh (h : Books w l) : w.nextAddr ∉ l.issued := fun hm => Nat.lt_irrefl _ (h.below _ hm)

/-- Calls that hand nothing over. -/
theorem calls (h : Books w l) {cs : List HostCall} (hc : ∀ c ∈ cs, c.request? = none) {live : List Block}
    (hl : live.count .http = w.live.count .http) : Books { w with live := live, calls := w.calls ++ cs } l where
  given := by
    have hn : cs.filterMap (·.request?) = [] := List.filterMap_eq_nil_iff.mpr hc
    show (w.calls ++ cs).filterMap _ = _
    rw [List.filterMap_append, hn, List.append_nil]
    exact h.given
  destroyed := h.destroyed
  contexts := h.contexts
  sockets := h.sockets
  ordered := h.ordered
  below := h.below
  options := hl.trans h.options

theorem request (h : Books w l) (b : HttpContext) (req : Option HttpRequest) {strs : List Block}
    (hs : ∀ x ∈ strs, x = .str) : Books { w.addContext b with
      live := strs ++ .http :: w.live
      calls := w.calls ++ [.mesiboUtilHttp req w.nextAddr] } (l.issue w.nextAddr h.fresh) where
  given := by
    show (w.calls ++ [_]).filterMap _ = l.issued ++ [w.nextAddr]
    rw [List.filterMap_append, ← h.given]
    rfl
  destroyed := h.destroyed
  contexts := fun a => by
    rw [Ledger.open_issue, ← h.contexts]
    by_cases e : a = w.nextAddr
    · subst e
      simp [World.addContext]
    · simp [World.addContext, e]
  sockets := fun a => by
    show (w.sockets a).isSome ↔ a < w.nextAddr + 1 ∧ a ∉ l.issued ++ [w.nextAddr]
    rw [h.sockets, List.mem_append, List.mem_singleton, not_or, Nat.lt_succ_iff_lt_or_eq]
    refine ⟨fun ha => ⟨.inl ha.1, ha.2, Nat.ne_of_lt ha.1⟩, fun ha => ⟨?_, ha.2.1⟩⟩
    exact ha.1.resolve_right ha.2.2
  ordered := List.pairwise_append.mpr ⟨h.ordered, List.pairwise_singleton _ _, fun a ha b hb => by
    rw [List.mem_singleton.mp hb]
    exact h.below a ha⟩
  below := fun a ha => by
    rcases List.mem_append.mp ha with ha | ha
    · exact Nat.lt_succ_of_lt (h.below a ha)
    · rw [List.mem_singleton.mp ha]
      exact Nat.lt_succ_self _
  options := by
    have hn : strs.count .http = 0 := List.count_eq_zero.mpr fun hm => nomatch hs _ hm
    show (strs ++ .http :: w.live).count .http = (l.issued ++ [w.nextAddr]).length
    rw [List.count_append, hn, List.count_cons_self, h.options, List.length_append]
    simp

theorem socket (h : Books w l) (sc : SocketContext) : Books (w.addSocket sc) l where
  given := h.given
  destroyed := h.destroyed
  contexts := h.contexts
  sockets := fun a => by
    show (Function.update w.sockets w.nextAddr (some sc) a).isSome ↔ a < w.nextAddr + 1 ∧ a ∉ l.issued
    by_cases e : a = w.nextAddr
    · subst e
      simp [h.fresh]
    · rw [Function.update_of_ne e, h.sockets, Nat.lt_succ_iff_lt_or_eq]
      simp [e]
  ordered := h.ordered
  below := fun a ha => Nat.lt_succ_of_lt (h.below a ha)
  options := h.options

theorem store (h : Books w l) {a : Addr} {b : HttpContext} (hb : w.https a = some b) (b' : HttpContext) :
    Books { w with https := Function.update w.https a (some b') } l where
  given := h.given
  destroyed := h.destroyed
  contexts := fun x => by
    rw [← h.contexts]
    by_cases e : x = a
    · subst e
      simp [hb]
    · simp [Function.update_of_ne e]
  sockets := h.sockets
  ordered := h.ordered
  below := h.below
  options := h.options

theorem live_open (h : Books w l) {a : Addr} {b : HttpContext} (hb : w.https a = some b) : l.Open a :=
  (h.contexts a).mp (by rw [hb]; rfl)

theorem destroy (h : Books w l) {a : Addr} {b : HttpContext} (hb : w.https a = some b) :
    Books { w with https := Function.update w.https a none, destroyed := w.destroyed ++ [a] }
      (l.settle a (h.live_open hb)) where
  given := h.given
  destroyed := congrArg (· ++ [a]) h.destroyed
  contexts := fun x => by
    rw [Ledger.open_settle, ← h.contexts]
    by_cases e : x = a
    · subst e
      simp
    · simp [e]
  sockets := h.sockets
  ordered := h.ordered
  below := h.below
  options := h.options

end Books

/-! ## Bookings -/

theorem native_books {w u : World} {l : Ledger Addr} (h : Books w l) (he : NativeEffect w u) :
    ∃ l', l.Steps l' ∧ Books u l' := by
  cases he with
  | js heap origin nextObj pending => exact ⟨l, .refl, ⟨h.1, h.2, h.3, h.4, h.5, h.6, h.7⟩⟩
  | leak b hb =>
    have hl : (b :: w.live).count .http = w.live.count .http := List.count_cons_of_ne hb
    exact ⟨l, .refl, ⟨h.1, h.2, h.3, h.4, h.5, h.6, hl.trans h.7⟩⟩
  | message mod p s len hf => exact ⟨l, .refl, h.calls (by simp [HostCall.request?]) (List.count_cons_of_ne (by decide))⟩
  | request mod o cb d req strs hcb hreq hstrs =>
    exact ⟨_, .single (.issue l _ h.fresh), h.request (freshContext mod o cb d) req hstrs⟩
  | socket d => exact ⟨l, .refl, h.socket _⟩
  | write sock data len hf => exact ⟨l, .refl, h.calls (by simp [HostCall.request?]) rfl⟩
  | close sock hf => exact ⟨l, .refl, h.calls (by simp [HostCall.request?]) rfl⟩

theorem load_books {w u : World} {l : Ledger Addr} (h : Books w l) (he : LoadEffect w u) :
    ∃ l', l.Steps l' ∧ Books u l' := by
  cases he with
  | native he => exact native_books h he
  | templates p => exact ⟨l, .refl, ⟨h.1, h.2, h.3, h.4, h.5, h.6, h.7⟩⟩
  | globals g => exact ⟨l, .refl, ⟨h.1, h.2, h.3, h.4, h.5, h.6, h.7⟩⟩

/-- Whatever a call of the host brings about, the ledger is kept. -/
theorem host_books {w u : World} {l : Ledger Addr} (h : Books w l) (he : HostEffect w u) :
    ∃ l', l.Steps l' ∧ Books u l' := by
  cases he with
  | load he => exact load_books h he
  | invoke i => exact ⟨l, .refl, ⟨h.1, h.2, h.3, h.4, h.5, h.6, h.7⟩⟩
  | store a b b' hb hk => exact ⟨l, .refl, h.store hb b'⟩
  | destroy a b hb => exact ⟨_, .single (.settle l a (h.live_open hb)), h.destroy hb⟩

/-- A run refines the ledger. -/
theorem run_books (hP : P.Sandboxed) {es : List Event} {s : System} (h : run (step P) .start es = .ok s) :
    ∃ l : Ledger Addr, Ledger.empty.Steps l ∧ Books s.world l := by
  refine run_invariant hP (I := fun w => ∃ l : Ledger Addr, Ledger.empty.Steps l ∧ Books w l)
    ⟨.empty, .refl, empty_books⟩ ?_ h
  intro w u hw he
  obtain ⟨l, hl, hb⟩ := hw
  obtain ⟨l', hl', hb'⟩ := host_books hb he
  exact ⟨l', hl.trans hl', hb'⟩

/-! ## Accounts -/

/-- What the books come to, in the words of the code. -/
structure World.Accounted (w : World) : Prop where
  /-- Each context is given to the host once. -/
  given : w.given.Pairwise (· < ·)
  /-- None is freed twice. -/
  freed : w.destroyed.Nodup
  /-- What was given is there or freed, and not both. -/
  contexts : ∀ a, a ∈ w.given ↔ ((w.https a).isSome ∨ a ∈ w.destroyed)
  apart : ∀ a, ¬((w.https a).isSome ∧ a ∈ w.destroyed)
  /-- The rest of what was allocated is sockets' contexts, which are never freed. -/
  allocated : ∀ a, a < w.nextAddr ↔ (a ∈ w.given ∨ (w.sockets a).isSome)
  sockets : ∀ a, ¬(a ∈ w.given ∧ (w.sockets a).isSome)
  /-- The contexts that are still there, and those that are not, make up all that were given. -/
  balance : w.given.length = (w.given.filter fun a => (w.https a).isSome).length + w.destroyed.length
  /-- The options of every request are still there. -/
  options : w.live.count .http = w.given.length

theorem Books.accounted {w : World} {l : Ledger Addr} (h : Books w l) : w.Accounted where
  given := h.given ▸ h.ordered
  freed := h.destroyed ▸ l.settled_nodup
  contexts := fun a => by
    rw [h.given, h.contexts, h.destroyed]
    by_cases ha : a ∈ l.settled
    · simp [ha, l.settled_issued a ha]
    · simp [ha, Ledger.Open]
  apart := fun a ha => by
    rw [h.contexts, h.destroyed] at ha
    exact ha.1.2 ha.2
  allocated := fun a => by
    rw [h.given, h.sockets]
    by_cases ha : a ∈ l.issued
    · simp [ha, h.below a ha]
    · simp [ha]
  sockets := fun a ha => by
    rw [h.given, h.sockets] at ha
    exact ha.2.2 ha.1
  balance := by
    rw [h.given, h.destroyed, l.length_issued]
    congr 2
    refine List.filter_congr fun a ha => ?_
    have hc := h.contexts a
    rw [Bool.eq_iff_iff, decide_eq_true_eq, hc]
    exact ⟨fun hs => ⟨ha, hs⟩, fun ho => ho.2⟩
  options := h.options.trans (congrArg List.length h.given).symm

/-- In every state a process can reach, every request is accounted for. -/
theorem run_accounted (hP : P.Sandboxed) {es : List Event} {s : System} (h : run (step P) .start es = .ok s) :
    s.world.Accounted := by
  obtain ⟨l, -, hb⟩ := run_books hP h
  exact hb.accounted

/-! ## Scripts that call -/

/-- Every object has listeners, and is a request to be sent. -/
def World.busy (w : World) : World :=
  { w with heap := fun _ k => .data (if k = JS_MESIBO_GLOBAL_OBJECT then .object 0
      else if k = HTTP_ONDATA ∨ k = JS_MESIBO_LISTENER_ON_MESSAGE ∨ k = JS_MESIBO_LISTENER_ON_MESSAGE_STATUS then .func 1
      else .str []) }

/-- Call a function of one of them. -/
def World.act (cb : Native) (w : World) : World :=
  match callNative .reference cb .request w.busy with
  | .ok (_, u) => u
  | .error _ => w.busy

/-- Scripts that call the function whenever they run. -/
def Platform.calling (cb : Native) : Platform :=
  { Platform.reference with
    run := fun _ _ w => (some .undefined, w.act cb)
    call := fun _ _ _ w => (some .undefined, w.act cb) }

theorem callNative_calling (cb x : Native) : callNative (.calling cb) x = callNative .reference x := by
  cases x <;> rfl

theorem act_scriptRun (cb : Native) (w : World) : ScriptRun (.calling cb) w (w.act cb) := by
  refine .js w.busy.heap w.nextObj w.pending ?_
  unfold World.act
  split
  · rename_i h
    rw [← callNative_calling cb] at h
    exact .native h (.done _)
  · exact .done _

theorem Platform.calling_sandboxed (cb : Native) : (Platform.calling cb).Sandboxed where
  run := fun _ _ w => act_scriptRun cb w
  call := fun _ _ _ w => act_scriptRun cb w

/-- Scripts that make a request whenever they run. -/
abbrev Platform.fetching : Platform := .calling .httpCallback

/-- The script is loaded and gets a message; of its first two requests one is answered, the other fails. -/
def fetchingRun : List Event := [
  .moduleInit 0 (some ⟨some "a.js", some "0"⟩) ⟨some 1, true, some []⟩,
  .message 0 ⟨1, 2, 0, 0, 0, 0, 3600, 0, some (.ofBytes [0x62]), some (.ofBytes [0x61])⟩ (.ofBytes [0x68, 0x69]) 2
    ⟨some 1, true, some []⟩,
  .httpStatus 0 200 (some (.ofBytes [0x74])), .httpData 0 4 50 (some (Mem.ofList [0x61, 0x62])) 2,
  .httpClose 0 0 ⟨some 1, true, some []⟩, .httpData 1 4 (-1) none 0]

theorem run_accounted_fetching : ∃ s, run (step .fetching) .start fetchingRun = .ok s ∧ s.world.given = [0, 1, 2] ∧
    s.world.destroyed = [0, 1] ∧ s.world.Accounted := by
  obtain ⟨s, h, hg, hd⟩ : ∃ s, run (step .fetching) .start fetchingRun = .ok s ∧ s.world.given = [0, 1, 2] ∧
      s.world.destroyed = [0, 1] := ⟨_, rfl, rfl, rfl⟩
  exact ⟨s, h, hg, hd, run_accounted (Platform.calling_sandboxed _) h⟩

end MesiboV8
