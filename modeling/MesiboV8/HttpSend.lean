/-
  MesiboV8.HttpSend — what `HttpCallback` does with its receiver, and when the two `send`
  callables come back (`send_returns_iff`).

  A callable comes back exactly when every property it asks for is there to be had: the
  `ToLocalChecked` on a lookup ends the process when a getter throws, as does the one on
  the `JSON::Stringify` of a message. A `toString` that throws is no harm: it reads as NULL.
-/

import MesiboV8.MessageSend

namespace MesiboV8

open Lib.Bytes Lib.Utf Lib.Effects Act

variable {P : Platform}

/-! ## The options -/

/-- The properties `JtoC_HttpOptions` asks for can be had, each as far as it gets. -/
def OptionsReturn (P : Platform) (o : ObjId) (w : World) : Prop :=
  ∃ url, w.get o HTTP_URL = some url ∧
    ((stringParam P url { w with live := .http :: w.live }).isSome → ∃ post, w.get o HTTP_POST = some post ∧
      ((stringParam P post { w with live := .str :: .http :: w.live }).isSome → ∀ k ∈ httpRestKeys, (w.get o k).isSome))

theorem jtoCHttpOptions_quiet {o : ObjId} {w u : World} {req : Option HttpRequest}
    (h : jtoCHttpOptions P o w = .ok (req, u)) : w.Quiet u := by
  rw [jtoCHttpOptions, bind_eq (malloc_apply _ _)] at h
  obtain ⟨url, w₁, h₁, h⟩ := bind_ok.mp h
  have q₁ : w.Quiet w₁ := (World.Quiet.withLive w _).trans (jtoCParamString_ok h₁).2
  cases url with
  | none => cases h; exact q₁
  | some url =>
    obtain ⟨post, w₂, h₂, h⟩ := bind_ok.mp h
    have q₂ := q₁.trans (jtoCParamString_ok h₂).2
    cases post with
    | none => cases h; exact q₂
    | some post =>
      obtain ⟨req, w₃, h₃, h⟩ := bind_ok.mp h
      cases h
      exact q₂.trans ((jtoCHttpOptionsRest_reads url post o).quiet h₃)

theorem jtoCParamString_bind {α : Type} {k : String} {o : ObjId} {f : Option CString → Act α} {w : World} :
    (∃ r, (jtoCParamString P k o >>= f) w = .ok r) ↔
      ∃ v, w.get o k = some v ∧ ∃ r, f (stringParam P v w) (w.withCopy (stringParam P v w)) = .ok r := by
  constructor
  · intro hx
    obtain ⟨⟨a, u⟩, h⟩ := hx
    obtain ⟨s, x, hs, h⟩ := bind_ok.mp h
    obtain ⟨⟨v, hv, -⟩, -⟩ := jtoCParamString_ok hs
    cases (jtoCParamString_eq hv).symm.trans hs
    exact ⟨v, hv, _, h⟩
  · intro hx
    obtain ⟨v, hv, r, h⟩ := hx
    exact ⟨r, (bind_eq (jtoCParamString_eq hv)).trans h⟩

theorem jtoCHttpOptions_returns (o : ObjId) (w : World) :
    (∃ r, jtoCHttpOptions P o w = .ok r) ↔ OptionsReturn P o w := by
  rw [jtoCHttpOptions, bind_eq (malloc_apply _ _), jtoCParamString_bind]
  refine exists_congr fun url => and_congr_right fun _ => ?_
  cases stringParam P url { w with live := .http :: w.live } with
  | none => simp
  | some u =>
    simp only [Option.isSome_some, forall_const]
    show (∃ r, (jtoCParamString P HTTP_POST o >>= _) { w with live := .str :: .http :: w.live } = .ok r) ↔ _
    rw [jtoCParamString_bind]
    refine exists_congr fun post => and_congr_right fun _ => ?_
    cases stringParam P post { w with live := .str :: .http :: w.live } with
    | none => simp
    | some p =>
      simp only [Option.isSome_some, forall_const]
      have h := ((jtoCHttpOptionsRest_reads (P := P) u p o).bind fun req => Reads.pure (some req)).returns
        { w with live := .str :: .str :: .http :: w.live }
      rw [List.append_nil] at h
      exact h

/-! ## `HttpCallback` -/

/-- A new `http_context_t`. -/
def World.addContext (w : World) (b : HttpContext) : World :=
  { w with https := Function.update w.https w.nextAddr (some b), nextAddr := w.nextAddr + 1 }

theorem jtoCHttpCallbackContext_eq {cb : JsVal} (hf : cb.isFunction) (o : ObjId) (d : JsVal) (mod : ModId) (w : World) :
    jtoCHttpCallbackContext o cb d mod w = .ok (some w.nextAddr, w.addContext (freshContext mod o cb d)) := by
  simp only [jtoCHttpCallbackContext, hf, Bool.not_true, Bool.false_eq_true, if_false]
  rfl

/-- The properties `HttpCallback` asks its receiver for can be had, each as far as it gets. -/
def HttpReturns (P : Platform) (info : CallInfo) (w : World) : Prop :=
  info.isConstructCall ∨ ∃ cb, w.get info.this HTTP_ONDATA = some cb ∧ (cb.isFunction →
    ∃ d, w.get info.this HTTP_CBDATA = some d ∧
      ∀ mod ∈ info.mod, OptionsReturn P info.this (w.addContext (freshContext mod info.this cb d)))

/-- `HttpCallback` gets as far as to ask the host, with this callback and data. -/
structure HttpSends (info : CallInfo) (w : World) (mod : ModId) (cb d : JsVal) : Prop where
  call : ¬info.isConstructCall
  ondata : w.get info.this HTTP_ONDATA = some cb
  function : cb.isFunction
  cbdata : w.get info.this HTTP_CBDATA = some d
  mod : info.mod = some mod

theorem httpCallback_send {info : CallInfo} {w : World} {mod : ModId} {cb d : JsVal} (hs : HttpSends info w mod cb d) :
    httpCallback P info w = (do
      let req ← jtoCHttpOptions P info.this
      let rv := P.mesiboUtilHttp req w.nextAddr (← get)
      hostCall (.mesiboUtilHttp req w.nextAddr)
      return .ofInt32 rv.toInt32 : Act JsVal) (w.addContext (freshContext mod info.this cb d)) := by
  unfold httpCallback
  have hget : (get : Act World) w = .ok (w, w) := rfl
  rw [if_neg hs.call, bind_eq hget, hs.ondata, bind_eq (toLocalChecked_some cb w), if_neg (by simp [hs.function]),
    bind_eq hget, hs.cbdata, bind_eq (toLocalChecked_some d w), hs.mod]
  exact bind_eq (jtoCHttpCallbackContext_eq hs.function info.this d mod w)

/-- Without a function it reports an error. -/
theorem httpCallback_noFunction {info : CallInfo} {w : World} {cb : JsVal} (hc : ¬info.isConstructCall)
    (hcb : w.get info.this HTTP_ONDATA = some cb) (hf : ¬cb.isFunction) :
    httpCallback P info w = invalidMessage P info "Bad function" w := by
  unfold httpCallback
  have hget : (get : Act World) w = .ok (w, w) := rfl
  rw [if_neg hc, bind_eq hget, hcb, bind_eq (toLocalChecked_some cb w), if_pos (by simp [hf])]
  rfl

/-- Where it does not, it is quiet. -/
theorem httpCallback_cases {info : CallInfo} {w u : World} {r : JsVal} (h : httpCallback P info w = .ok (r, u)) :
    (∃ mod cb d, HttpSends info w mod cb d) ∨ w.Quiet u ∧ (info.isConstructCall ∨
      ∃ cb, w.get info.this HTTP_ONDATA = some cb ∧ (cb.isFunction →
        (∃ d, w.get info.this HTTP_CBDATA = some d) ∧ info.mod = none)) := by
  unfold httpCallback at h
  have hget : (get : Act World) w = .ok (w, w) := rfl
  by_cases hc : info.isConstructCall
  · rw [if_pos hc] at h
    exact .inr ⟨invalidMessage_quiet h, .inl hc⟩
  · rw [if_neg hc, bind_eq hget] at h
    cases hcb : w.get info.this HTTP_ONDATA with
    | none => rw [hcb] at h; cases h
    | some cb =>
      rw [hcb, bind_eq (toLocalChecked_some cb w)] at h
      by_cases hf : cb.isFunction
      · rw [if_neg (by simp [hf]), bind_eq hget] at h
        cases hd : w.get info.this HTTP_CBDATA with
        | none => rw [hd] at h; cases h
        | some d =>
          rw [hd, bind_eq (toLocalChecked_some d w)] at h
          cases hm : info.mod with
          | none => rw [hm] at h; cases h; exact .inr ⟨.refl w, .inr ⟨cb, rfl, fun _ => ⟨⟨d, rfl⟩, rfl⟩⟩⟩
          | some mod => exact .inl ⟨mod, cb, d, hc, hcb, hf, hd, hm⟩
      · rw [if_pos (by simp [hf])] at h
        exact .inr ⟨invalidMessage_quiet h, .inr ⟨cb, rfl, fun hn => absurd hn hf⟩⟩

theorem httpCallback_construct {info : CallInfo} (hc : info.isConstructCall) (w : World) :
    httpCallback P info w = invalidMessage P info "Error: Bad call to class method" w := by
  unfold httpCallback
  rw [if_pos hc]
  rfl

/-- With undefined for its data it does not come back from an error. -/
theorem httpCallback_undefined {info : CallInfo} (hd : info.data = .undefined) {w : World} {message : String}
    (hc : Native.httpCallback.Complains info w message) : httpCallback P info w = .error .badCast := by
  rcases hc with ⟨hc, -⟩ | ⟨hc, ⟨f, hf, hfun⟩, -⟩
  · rw [httpCallback_construct hc, invalidMessage_undefined hd]
  · rw [httpCallback_noFunction hc hf hfun, invalidMessage_undefined hd]

theorem httpCallback_reads {info : CallInfo} {w u : World} {r : JsVal} (h : httpCallback P info w = .ok (r, u)) :
    HttpReturns P info w := by
  rcases httpCallback_cases h with ⟨mod, cb, d, hs⟩ | ⟨-, hc | ⟨cb, hcb, hd⟩⟩
  · refine .inr ⟨cb, hs.ondata, fun _ => ⟨d, hs.cbdata, fun mod' hm => ?_⟩⟩
    cases hs.mod.symm.trans hm
    rw [httpCallback_send hs] at h
    obtain ⟨req, v, hr, -⟩ := bind_ok.mp h
    exact (jtoCHttpOptions_returns info.this _).mp ⟨_, hr⟩
  · exact .inl hc
  · refine .inr ⟨cb, hcb, fun hf => ?_⟩
    obtain ⟨⟨d, hd⟩, hm⟩ := hd hf
    exact ⟨d, hd, by simp [hm]⟩

theorem httpCallback_returns (hn : P.ShortNames) (info : CallInfo) (w : World) :
    (∃ r, httpCallback P info w = .ok r) ↔ HttpReturns P info w ∧ Native.httpCallback.CanReport info w := by
  constructor
  · intro hx
    obtain ⟨⟨r, u⟩, h⟩ := hx
    refine ⟨httpCallback_reads h, fun hd message hc => ?_⟩
    cases (httpCallback_undefined hd hc).symm.trans h
  · intro hx
    obtain ⟨h, hrep⟩ := hx
    by_cases hc : info.isConstructCall
    · rw [httpCallback_construct hc]
      exact invalidMessage_returns hn (fun hd => hrep hd _ (.inl ⟨hc, rfl⟩)) (by decide) w
    · obtain ⟨cb, hcb, hread⟩ := h.resolve_left hc
      have hget : (get : Act World) w = .ok (w, w) := rfl
      by_cases hf : cb.isFunction
      · obtain ⟨d, hd, hopt⟩ := hread hf
        cases hm : info.mod with
        | none =>
          unfold httpCallback
          rw [if_neg hc, bind_eq hget, hcb, bind_eq (toLocalChecked_some cb w), if_neg (by simp [hf]), bind_eq hget, hd,
            bind_eq (toLocalChecked_some d w), hm]
          exact ⟨_, rfl⟩
        | some mod =>
          obtain ⟨⟨req, v⟩, hr⟩ := (jtoCHttpOptions_returns info.this _).mpr (hopt mod hm)
          rw [httpCallback_send ⟨hc, hcb, hf, hd, hm⟩, bind_eq hr]
          exact ⟨_, rfl⟩
      · rw [httpCallback_noFunction hc hcb hf]
        exact invalidMessage_returns hn (fun hd => hrep hd _ (.inr ⟨hc, ⟨cb, hcb, hf⟩, rfl⟩)) (by decide) w

/-- The `send` callables come back exactly when no getter they come to throws, and the
    message of a `Message` can be made JSON. (They are registered with a module, so they can
    report what they have to, `Native.canReport_of_data`.) -/
theorem send_returns_iff (hn : P.ShortNames) (info : CallInfo) (w : World) :
    ((∃ r, messageCallback P info w = .ok r) ↔ SendReturns P info w ∧ Native.messageCallback.CanReport info w) ∧
    ((∃ r, httpCallback P info w = .ok r) ↔ HttpReturns P info w ∧ Native.httpCallback.CanReport info w) :=
  ⟨messageCallback_returns hn info w, httpCallback_returns hn info w⟩

theorem Platform.reference_shortNames : Platform.reference.ShortNames := nofun

/-- Every property of every object is the empty string. -/
def World.blank : World := { World.empty with heap := fun _ _ => .data (.str []) }

theorem send_returns_blank : (∃ r, messageCallback .reference ⟨0, .external (some 0), [], false, 0⟩ .blank = .ok r) ∧
    ∃ r, httpCallback .reference ⟨0, .external (some 0), [], false, 0⟩ .blank = .ok r := by
  have h := send_returns_iff Platform.reference_shortNames ⟨0, .external (some 0), [], false, 0⟩ .blank
  have reports : ∀ cb : Native, cb.CanReport ⟨0, .external (some 0), [], false, 0⟩ .blank :=
    fun cb => Native.canReport_of_data (by decide) _ cb
  exact ⟨h.1.mpr ⟨⟨_, rfl, fun _ => ⟨nofun, fun _ _ _ => rfl⟩⟩, reports _⟩, h.2.mpr ⟨.inr ⟨_, rfl, nofun⟩, reports _⟩⟩

/-- A getter of `aid` that throws ends the process. -/
theorem throwing_aid_aborts : messageCallback .reference ⟨0, .external (some 0), [], false, 0⟩
    (World.blank.putSlot 0 MESSAGE_AID (.accessor none none)) = .error .toLocalChecked := rfl

end MesiboV8
