/-
  MesiboV8.HttpInterleave — the order of the host's callbacks, as far as it matters.

  A callback that does not end its request reads and writes the context it is about and
  nothing else, and of that a chunk works on the body and a status on the status and the
  type, as long as the type fits its array. So it is enough that the chunks of each
  request come in their order and so do its statuses: all ways to interleave them lead to
  the same states, in any run (`callbacks_interleave`).
-/

import MesiboV8.HttpRuns
import MesiboV8.Lib.Interleave

namespace MesiboV8

open Lib.Bytes Lib.Utf Lib.Effects Lib.Runs Act

variable {P : Platform}

/-! ## What a callback works on -/

/-- An `ondata` with progress on a context; none: it is written out of bounds. -/
def HttpContext.onData? (P : Platform) (b : HttpContext) (state : Int64) (buffer : Option Mem) (size : Int64) :
    Option HttpContext :=
  if P.MODULE_HTTP_STATE_RESPBODY ≠ state then some b
  else match storeBody b buffer size with
    | .error _ => none
    | .ok none => some b
    | .ok (some b') => some b'

/-- An `onstatus` with a type on a context. -/
def HttpContext.onStatus? (b : HttpContext) (status : Int64) (t : CString) : Option HttpContext :=
  match b.mod with
  | none => some b
  | some _ => (storeStatus b status t).toOption

def World.putContext (w : World) (a : Addr) (b : HttpContext) : World :=
  { w with https := Function.update w.https a (some b) }

/-- The call works on the context at `a`, by `f`. -/
def Event.WorksOn (P : Platform) (e : Event) (a : Addr) (f : HttpContext → Option HttpContext) : Prop :=
  ∀ s t, step P s e = .ok t ↔ ∃ b b', s.world.https a = some b ∧ f b = some b' ∧
    t = { s with world := s.world.putContext a b' }

theorem exec_some {α : Type} {s t : System} {x : Act α} {y : Except Fault (α × World)} (hx : x s.world = y) :
    s.exec x = .ok t ↔ ∃ r, y = .ok r ∧ t = { s with world := r.2 } := by
  rw [exec_ok, hx]
  constructor
  · intro h
    obtain ⟨a, w, h, rfl⟩ := h
    exact ⟨(a, w), h, rfl⟩
  · intro h
    obtain ⟨r, h, rfl⟩ := h
    exact ⟨r.1, r.2, h, rfl⟩

@[simp] theorem putContext_https (w : World) (a : Addr) (b : HttpContext) : (w.putContext a b).https a = some b :=
  Function.update_self _ _ _

theorem putContext_https_ne (w : World) {a x : Addr} (h : x ≠ a) (b : HttpContext) :
    (w.putContext a b).https x = w.https x := Function.update_of_ne h _ _

theorem putContext_self {w : World} {a : Addr} {b : HttpContext} (hb : w.https a = some b) : w.putContext a b = w :=
  put_self hb

theorem httpData_worksOn {a : Addr} {state progress : Int64} {buffer : Option Mem} {size : Int64} (hp : 0 ≤ progress) :
    (Event.httpData a state progress buffer size).WorksOn P a (·.onData? P state buffer size) := by
  intro s t
  cases hb : s.world.https a with
  | none =>
    have hx : jsMesiboHttpOndata P a state progress buffer size s.world = .error .useAfterFree := by
      rw [jsMesiboHttpOndata, bind_error (derefContext_gone hb)]
    refine (exec_some hx).trans ?_
    simp
  | some b =>
    refine (exec_some (ondata_eq hb state progress buffer size)).trans ?_
    rw [if_neg (Int64.not_lt.mpr hp)]
    unfold HttpContext.onData?
    simp only [Option.some.injEq, exists_and_left, exists_eq_left']
    by_cases hs : P.MODULE_HTTP_STATE_RESPBODY ≠ state
    · rw [if_pos hs]
      simp [hs, putContext_self hb]
    · simp only [if_neg hs]
      cases storeBody b buffer size with
      | error f => simp
      | ok c =>
        cases c with
        | none => simp [putContext_self hb]
        | some b' => simp [World.putContext]

theorem httpStatus_worksOn {a : Addr} {status : Int64} {u : CString} :
    (Event.httpStatus a status (some u)).WorksOn P a (·.onStatus? status u) := by
  intro s t
  cases hb : s.world.https a with
  | none =>
    have hx : jsMesiboHttpOnstatus P a status (some u) s.world = .error .useAfterFree := by
      rw [jsMesiboHttpOnstatus, bind_error (derefContext_gone hb)]
    refine (exec_some hx).trans ?_
    simp
  | some b =>
    simp only [HttpContext.onStatus?, Option.some.injEq, exists_and_left, exists_eq_left']
    cases hm : b.mod with
    | none =>
      have hx : jsMesiboHttpOnstatus P a status (some u) s.world = .ok (P.MESIBO_RESULT_FAIL, s.world) := by
        rw [jsMesiboHttpOnstatus, bind_eq (derefContext_eq hb), hm]
        rfl
      refine (exec_some hx).trans ?_
      simp [putContext_self hb]
    | some mod =>
      refine (exec_some (onstatus_eq hb hm status u)).trans ?_
      cases storeStatus b status u with
      | error f => simp [Except.toOption]
      | ok b' => simp [Except.toOption, World.putContext]

/-! ## Callbacks that commute -/

section Commute

variable {e e' : Event} {a a' : Addr} {f g : HttpContext → Option HttpContext}

theorem apart_commutes (he : e.WorksOn P a f) (he' : e'.WorksOn P a' g) (hne : a ≠ a') {s t : System}
    (h : run (step P) s [e, e'] = .ok t) : run (step P) s [e', e] = .ok t := by
  obtain ⟨u, hu, ht⟩ := run_two.mp h
  obtain ⟨b, b', hb, hf, rfl⟩ := (he s u).mp hu
  obtain ⟨c, c', hc, hg, rfl⟩ := (he' _ t).mp ht
  rw [putContext_https_ne _ (Ne.symm hne)] at hc
  refine run_two.mpr ⟨_, (he' s _).mpr ⟨c, c', hc, hg, rfl⟩, (he _ _).mpr ⟨b, b', ?_, hf, ?_⟩⟩
  · exact (putContext_https_ne _ hne _).trans hb
  · simp only [World.putContext, Function.update_comm hne]

theorem same_commutes (he : e.WorksOn P a f) (he' : e'.WorksOn P a g) (hfg : ∀ b, (f b).bind g = (g b).bind f)
    {s t : System} (h : run (step P) s [e, e'] = .ok t) : run (step P) s [e', e] = .ok t := by
  obtain ⟨u, hu, ht⟩ := run_two.mp h
  obtain ⟨b, b', hb, hf, rfl⟩ := (he s u).mp hu
  obtain ⟨c, d, hc, hg, rfl⟩ := (he' _ t).mp ht
  obtain rfl : b' = c := Option.some.inj ((putContext_https _ _ _).symm.trans hc)
  have hd : (g b).bind f = some d := by rw [← hfg, hf]; exact hg
  obtain ⟨c, hgc, hfc⟩ := Option.bind_eq_some_iff.mp hd
  refine run_two.mpr ⟨_, (he' s _).mpr ⟨b, c, hb, hgc, rfl⟩, (he _ _).mpr ⟨c, d, putContext_https _ _ _, hfc, ?_⟩⟩
  simp only [World.putContext, Function.update_idem]

end Commute

/-- A body does not look at the status and the type, and leaves them. -/
theorem storeBody_status (b : HttpContext) (buffer : Option Mem) (size status : Int64) (type : Buf HTTP_RESPONSE_TYPE_LEN) :
    storeBody { b with status := status, responseType := type } buffer size =
      (storeBody b buffer size).map (Option.map fun b' => { b' with status := status, responseType := type }) := by
  unfold storeBody
  cases buffer with
  | none => rfl
  | some src =>
    dsimp only
    split
    · rfl
    · split
      · rfl
      · split <;> rfl

theorem storeStatus_short {t : CString} (ht : t.bytes.length ≤ HTTP_RESPONSE_TYPE_LEN) (b : HttpContext) (status : Int64) :
    storeStatus b status t = .ok { b with
      status := status, responseType := b.responseType.write 0 (Mem.ofList t.bytes) t.bytes.length } := by
  unfold storeStatus
  dsimp only
  rw [if_neg (by omega), Nat.min_eq_left ht, Nat.sub_eq_zero_of_le ht, Buf.write_zero]

theorem onStatus_some {t : CString} (ht : t.bytes.length ≤ HTTP_RESPONSE_TYPE_LEN) {b : HttpContext} {mod : ModId}
    (hm : b.mod = some mod) (status : Int64) : b.onStatus? status t =
      some { b with status := status, responseType := b.responseType.write 0 (Mem.ofList t.bytes) t.bytes.length } := by
  simp [HttpContext.onStatus?, hm, storeStatus_short ht, Except.toOption]

theorem onStatus_none {b : HttpContext} (hm : b.mod = none) (status : Int64) (t : CString) :
    b.onStatus? status t = some b := by rw [HttpContext.onStatus?, hm]

theorem onData_mod {b b' : HttpContext} {state : Int64} {buffer : Option Mem} {size : Int64}
    (h : b.onData? P state buffer size = some b') : b'.mod = b.mod := by
  unfold HttpContext.onData? at h
  split at h
  · cases h; rfl
  · split at h <;> cases h
    · rfl
    · rename_i hx
      exact congrArg (·.mod) (storeBody_rest hx)

/-- A chunk and a status with a type that fits. -/
theorem data_status_commute {t : CString} (ht : t.bytes.length ≤ HTTP_RESPONSE_TYPE_LEN) (state : Int64)
    (buffer : Option Mem) (size status : Int64) (b : HttpContext) :
    (b.onData? P state buffer size).bind (·.onStatus? status t) = (b.onStatus? status t).bind (·.onData? P state buffer size) := by
  cases hm : b.mod with
  | none =>
    rw [onStatus_none hm, Option.bind_some]
    cases hd : b.onData? P state buffer size with
    | none => rfl
    | some b' =>
      exact onStatus_none ((onData_mod hd).trans hm) status t
  | some mod =>
    rw [onStatus_some ht hm, Option.bind_some]
    unfold HttpContext.onData?
    by_cases hs : P.MODULE_HTTP_STATE_RESPBODY ≠ state
    · rw [if_pos hs, if_pos hs]
      exact onStatus_some ht hm status
    rw [if_neg hs, if_neg hs, storeBody_status b buffer size status]
    cases hx : storeBody b buffer size with
    | error f => rfl
    | ok c =>
      cases c with
      | none => exact onStatus_some ht hm status
      | some b' =>
        have hr := storeBody_rest hx
        refine (onStatus_some ht ((congrArg (·.mod) hr).trans hm) status).trans ?_
        rw [congrArg (·.responseType) hr]
        rfl

/-! ## Interleavings -/

/-- A callback that leaves its request open, with a type that fits its array. -/
def Event.Lasts : Event → Prop
  | .httpData _ _ progress _ _ => 0 ≤ progress
  | .httpStatus _ _ responseType => ∀ t, responseType = some t → t.bytes.length ≤ HTTP_RESPONSE_TYPE_LEN
  | _ => False

/-- The part of the context the callback works on: of which request, and the status or the body. -/
def Event.part : Event → Option Addr × Bool
  | .httpStatus a _ _ => (some a, true)
  | e => (e.request?, false)

theorem lasts_commutes {e e' : Event} (he : e.Lasts) (he' : e'.Lasts) (hne : e.part ≠ e'.part) :
    Commutes (step P) e e' := by
  have apart : ∀ {e e' : Event} {a a' : Addr} {f g : HttpContext → Option HttpContext}, e.WorksOn P a f →
      e'.WorksOn P a' g → a ≠ a' → Commutes (step P) e e' := fun he he' hne _ _ =>
    ⟨apart_commutes he he' hne, apart_commutes he' he (Ne.symm hne)⟩
  have mixed : ∀ {a a' state progress size status} {buffer : Option Mem} {t : CString}, 0 ≤ progress →
      t.bytes.length ≤ HTTP_RESPONSE_TYPE_LEN →
      Commutes (step P) (.httpData a state progress buffer size) (.httpStatus a' status (some t)) := by
    intro a a' state progress size status buffer t hp ht
    by_cases e : a = a'
    · subst e
      have hfg := fun b => data_status_commute (P := P) ht state buffer size status b
      exact fun _ _ => ⟨same_commutes (httpData_worksOn hp) httpStatus_worksOn hfg,
        same_commutes httpStatus_worksOn (httpData_worksOn hp) fun b => (hfg b).symm⟩
    · exact apart (httpData_worksOn hp) httpStatus_worksOn e
  have idle : ∀ {a status} (e : Event), Commutes (step P) (.httpStatus a status none) e := fun e =>
    .idle (fun _ => rfl) e
  cases e with
  | moduleInit | message | messageStatus | httpClose => cases he
  | httpData a state progress buffer size =>
    cases e' with
    | moduleInit | message | messageStatus | httpClose => cases he'
    | httpData a' state' progress' buffer' size' =>
      have haa : a ≠ a' := fun e => hne (by rw [e]; rfl)
      exact apart (httpData_worksOn he) (httpData_worksOn he') haa
    | httpStatus a' status' t' =>
      cases t' with
      | none => exact (idle _).symm
      | some t' => exact mixed he (he' t' rfl)
  | httpStatus a status t =>
    cases t with
    | none => exact idle e'
    | some t =>
      cases e' with
      | moduleInit | message | messageStatus | httpClose => cases he'
      | httpData a' state' progress' buffer' size' => exact (mixed he' (he t rfl)).symm
      | httpStatus a' status' t' =>
        cases t' with
        | none => exact (idle _).symm
        | some t' =>
          have haa : a ≠ a' := fun e => hne (by rw [e]; rfl)
          exact apart httpStatus_worksOn httpStatus_worksOn haa

/-- Callbacks that come in the same order for each part of each request lead to the same
    states, wherever in a run they come. -/
theorem callbacks_interleave {es fs : List Event} (hes : ∀ e ∈ es, e.Lasts)
    (h : ∀ k, es.filter (·.part = k) = fs.filter (·.part = k)) (before after : List Event) (s t : System) :
    run (step P) s (before ++ es ++ after) = .ok t ↔ run (step P) s (before ++ fs ++ after) = .ok t := by
  have hfs : ∀ f ∈ fs, f.Lasts := by
    intro f hf
    have hk : f ∈ fs.filter (·.part = f.part) := List.mem_filter.mpr ⟨hf, by simp⟩
    rw [← h] at hk
    exact hes f (List.mem_of_mem_filter hk)
  have hcomm : ∀ e ∈ es, ∀ f ∈ fs, e.part ≠ f.part → Commutes (step P) f e := fun e he f hf hne =>
    lasts_commutes (hfs f hf) (hes e he) (Ne.symm hne)
  have hmid : ∀ u v, run (step P) u es = .ok v ↔ run (step P) u fs = .ok v := run_interleave hcomm h
  simp only [List.append_assoc, run_append_ok]
  exact exists_congr fun u => and_congr_right fun _ => exists_congr fun v => and_congr_left fun _ => hmid u v

/-- A status between two chunks, and another request's chunk, may come last and first. -/
theorem callbacks_interleave_fetching : ∃ t,
    run (step .fetching) .start (fetchingRun.take 2 ++ [.httpData 0 4 25 (some (Mem.ofList [0x61])) 1,
      .httpStatus 0 200 (some (.ofBytes [0x74])), .httpData 0 4 50 (some (Mem.ofList [0x62])) 1,
      .httpData 1 4 50 (some (Mem.ofList [0x63])) 1] ++ []) = .ok t ∧
    run (step .fetching) .start (fetchingRun.take 2 ++ [.httpData 1 4 50 (some (Mem.ofList [0x63])) 1,
      .httpData 0 4 25 (some (Mem.ofList [0x61])) 1, .httpData 0 4 50 (some (Mem.ofList [0x62])) 1,
      .httpStatus 0 200 (some (.ofBytes [0x74]))] ++ []) = .ok t := by
  obtain ⟨t, h⟩ : ∃ t, run (step .fetching) .start (fetchingRun.take 2 ++
      [.httpData 0 4 25 (some (Mem.ofList [0x61])) 1, .httpStatus 0 200 (some (.ofBytes [0x74])),
      .httpData 0 4 50 (some (Mem.ofList [0x62])) 1, .httpData 1 4 50 (some (Mem.ofList [0x63])) 1] ++ []) = .ok t := ⟨_, rfl⟩
  refine ⟨t, h, (callbacks_interleave ?_ (fun k => ?_) _ _ _ t).mp h⟩
  · have hfits : (CString.ofBytes [0x74]).bytes.length ≤ HTTP_RESPONSE_TYPE_LEN := by decide
    simpa [Event.Lasts] using hfits
  · rcases k with ⟨a, b⟩
    simp only [Event.part, Event.request?, List.filter_cons, List.filter_nil]
    by_cases h₀ : some 0 = a
    · subst h₀
      cases b <;> simp
    · by_cases h₁ : some 1 = a
      · subst h₁
        cases b <;> simp
      · simp [h₀, h₁]

end MesiboV8
