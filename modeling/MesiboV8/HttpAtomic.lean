/-
  MesiboV8.HttpAtomic — `Http.send` is not all or nothing.

  With an `ondata` function, and a `url` and a `post` that convert, it makes its request;
  without a function it leaves everything as it was. But where only the conversion fails,
  what `JtoC_HttpOptions` returns for that goes on to the host: the request is made with
  NULL, and the context and what was read so far stay. So it is all or nothing exactly if
  a function comes with strings that convert, and that a C string can hold
  (`all_or_nothing_iff`).
-/

import MesiboV8.HttpOptions

namespace MesiboV8

open Lib.Bytes Lib.Utf Lib.Effects Act

variable {P : Platform}

/-! ## Options -/

/-- The `url` and `post` of the object convert to strings of these bytes. -/
structure Converts (P : Platform) (o : ObjId) (w : World) (url post : List UInt8) : Prop where
  url : ∃ v, w.get o HTTP_URL = some v ∧ v.isNullOrUndefined = false ∧
    P.toUtf8 v { w with live := .http :: w.live } = some url
  post : ∃ v, w.get o HTTP_POST = some v ∧ v.isNullOrUndefined = false ∧
    P.toUtf8 v { w with live := .str :: .http :: w.live } = some post

theorem stringParam_eq_some {v : JsVal} {w : World} {s : CString} :
    stringParam P v w = some s ↔ v.isNullOrUndefined = false ∧ ∃ b, P.toUtf8 v w = some b ∧ s = .ofBytes b := by
  unfold stringParam
  cases v.isNullOrUndefined
  · simp [eq_comm]
  · simp

/-- The properties `send` reads. -/
def httpKeys : List String := HTTP_ONDATA :: HTTP_CBDATA :: HTTP_URL :: HTTP_POST :: httpRestKeys

section Options

variable {o : ObjId} {w : World} {url post : List UInt8}

theorem Converts.unique (h : Converts P o w url post) {url' post' : List UInt8} (h' : Converts P o w url' post') :
    url = url' ∧ post = post' := by
  obtain ⟨⟨u, hu, -, hub⟩, p, hp, -, hpb⟩ := h
  obtain ⟨⟨u', hu', -, hub'⟩, p', hp', -, hpb'⟩ := h'
  cases hu.symm.trans hu'
  cases hp.symm.trans hp'
  cases hub.symm.trans hub'
  cases hpb.symm.trans hpb'
  exact ⟨rfl, rfl⟩

/-- With both it makes a request of them. -/
theorem jtoCHttpOptions_converts (h : Converts P o w url post) (hk : ∀ k ∈ httpRestKeys, (w.get o k).isSome) :
    ∃ req u, jtoCHttpOptions P o w = .ok (some req, u) ∧ req.url = some (.ofBytes url) ∧ req.post = some (.ofBytes post) := by
  obtain ⟨⟨u, hu, hun, hub⟩, p, hp, hpn, hpb⟩ := h
  have hurl : stringParam P u { w with live := .http :: w.live } = some (.ofBytes url) :=
    stringParam_eq_some.mpr ⟨hun, url, hub, rfl⟩
  have hpost : stringParam P p { w with live := .str :: .http :: w.live } = some (.ofBytes post) :=
    stringParam_eq_some.mpr ⟨hpn, post, hpb, rfl⟩
  obtain ⟨⟨req, v⟩, hr⟩ := ((jtoCHttpOptionsRest_reads (P := P) (.ofBytes url) (.ofBytes post) o).returns
    { w with live := .str :: .str :: .http :: w.live }).mpr hk
  obtain ⟨h₁, h₂, -⟩ := jtoCHttpOptionsRest_fields (.refl _) hr
  refine ⟨req, v, ?_, h₁, h₂⟩
  have eurl := jtoCParamString_eq (P := P) (k := HTTP_URL) (w := { w with live := .http :: w.live }) hu
  have epost := jtoCParamString_eq (P := P) (k := HTTP_POST) (w := { w with live := .str :: .http :: w.live }) hp
  rw [hurl] at eurl
  rw [hpost] at epost
  rw [jtoCHttpOptions, bind_eq (malloc_apply _ _), bind_eq eurl]
  dsimp only
  rw [show World.withCopy { w with live := .http :: w.live } (some (.ofBytes url)) =
    { w with live := .str :: .http :: w.live } from rfl, bind_eq epost]
  exact bind_eq hr

/-- Without one of them it comes back with NULL. -/
theorem jtoCHttpOptions_fails (h : ¬∃ url post, Converts P o w url post) (hu : (w.get o HTTP_URL).isSome)
    (hp : (w.get o HTTP_POST).isSome) : ∃ u, jtoCHttpOptions P o w = .ok (none, u) := by
  obtain ⟨u, hu⟩ := Option.isSome_iff_exists.mp hu
  obtain ⟨p, hp⟩ := Option.isSome_iff_exists.mp hp
  have eurl := jtoCParamString_eq (P := P) (k := HTTP_URL) (w := { w with live := .http :: w.live }) hu
  have epost := jtoCParamString_eq (P := P) (k := HTTP_POST) (w := { w with live := .str :: .http :: w.live }) hp
  rw [jtoCHttpOptions, bind_eq (malloc_apply _ _), bind_eq eurl]
  cases hurl : stringParam P u { w with live := .http :: w.live } with
  | none => exact ⟨_, rfl⟩
  | some url =>
    cases hpost : stringParam P p { w with live := .str :: .http :: w.live } with
    | none =>
      rw [hpost] at epost
      exact ⟨_, bind_eq epost⟩
    | some post =>
      obtain ⟨hun, b, hub, -⟩ := stringParam_eq_some.mp hurl
      obtain ⟨hpn, c, hpb, -⟩ := stringParam_eq_some.mp hpost
      exact absurd ⟨b, c, ⟨u, hu, hun, hub⟩, p, hp, hpn, hpb⟩ h

end Options

/-! ## `send` -/

/-- A call of the `send` of a module's `Http` objects. -/
def httpSend (isolate : IsolateId) (o : ObjId) (mod : ModId) (args : List JsVal) : CallInfo :=
  ⟨o, .external (some mod), args, false, isolate⟩

/-- The object has an `ondata` function, and its `url` and `post` convert. -/
structure Complete (P : Platform) (o : ObjId) (mod : ModId) (w : World) (cb : JsVal) (url post : List UInt8) : Prop where
  ondata : w.get o HTTP_ONDATA = some cb ∧ cb.isFunction
  converts : ∃ d, w.get o HTTP_CBDATA = some d ∧ Converts P o (w.addContext (freshContext mod o cb d)) url post

/-- A complete object makes one request of its strings, with a context for its function; of
    any other nothing is asked and nothing stays. -/
structure AllOrNothing (P : Platform) (isolate : IsolateId) (o : ObjId) (mod : ModId) (args : List JsVal)
    (w : World) : Prop where
  all : ∀ cb url post, Complete P o mod w cb url post →
    ∃ r u req a, httpCallback P (httpSend isolate o mod args) w = .ok (r, u) ∧
      u.calls = w.calls ++ [.mesiboUtilHttp (some req) a] ∧
      (∃ s, req.url = some s ∧ s.bytes = url) ∧ (∃ s, req.post = some s ∧ s.bytes = post) ∧
      ∃ b, u.https a = some b ∧ b.httpCb = cb
  nothing : (¬∃ cb url post, Complete P o mod w cb url post) →
    ∀ r u, httpCallback P (httpSend isolate o mod args) w = .ok (r, u) →
      u.calls = w.calls ∧ u.https = w.https ∧ u.live = w.live

section Send

variable {isolate : IsolateId} {o : ObjId} {mod : ModId} {args : List JsVal} {w : World}

variable (isolate args) in
/-- A request for what the options are. -/
theorem httpCallback_asks {cb d : JsVal} (hcb : w.get o HTTP_ONDATA = some cb) (hf : cb.isFunction)
    (hd : w.get o HTTP_CBDATA = some d) {req : Option HttpRequest} {v : World}
    (hr : jtoCHttpOptions P o (w.addContext (freshContext mod o cb d)) = .ok (req, v)) :
    ∃ r u, httpCallback P (httpSend isolate o mod args) w = .ok (r, u) ∧
      u.calls = w.calls ++ [.mesiboUtilHttp req w.nextAddr] ∧ u.https w.nextAddr = some (freshContext mod o cb d) := by
  have hs : HttpSends (httpSend isolate o mod args) w mod cb d := ⟨by simp [httpSend], hcb, hf, hd, rfl⟩
  have hq := jtoCHttpOptions_quiet hr
  rw [httpCallback_send hs]
  refine ⟨_, _, bind_eq hr, ?_, ?_⟩
  · show v.calls ++ _ = _
    rw [hq.calls]
    rfl
  · show v.https w.nextAddr = _
    rw [hq.https]
    exact Function.update_self _ _ _

/-- Without a function nothing is asked, and nothing stays. -/
theorem httpCallback_unasked {cb r : JsVal} {u : World} (hcb : w.get o HTTP_ONDATA = some cb) (hf : cb.isFunction = false)
    (h : httpCallback P (httpSend isolate o mod args) w = .ok (r, u)) :
    u.calls = w.calls ∧ u.https = w.https ∧ u.live = w.live := by
  rw [httpCallback_noFunction (by simp [httpSend]) hcb (by simp [hf])] at h
  obtain ⟨x, v, hx, hv⟩ := bind_ok.mp h
  cases hv
  rw [reportException_world hx]
  exact ⟨rfl, rfl, rfl⟩

theorem complete_iff {cb d : JsVal} {url post : List UInt8} (hcb : w.get o HTTP_ONDATA = some cb) (hf : cb.isFunction)
    (hd : w.get o HTTP_CBDATA = some d) :
    Complete P o mod w cb url post ↔ Converts P o (w.addContext (freshContext mod o cb d)) url post := by
  constructor
  · intro h
    obtain ⟨d', hd', hconv⟩ := h.converts
    cases hd.symm.trans hd'
    exact hconv
  · exact fun h => ⟨⟨hcb, hf⟩, d, hd, h⟩

/-- It is all or nothing exactly for an object that has no function, or with it strings
    that convert and have no NUL. -/
theorem all_or_nothing_iff (hplain : ∀ k ∈ httpKeys, w.Plain o k) : AllOrNothing P isolate o mod args w ↔
    ∀ cb, w.get o HTTP_ONDATA = some cb → cb.isFunction →
      ∃ url post, Complete P o mod w cb url post ∧ 0 ∉ url ∧ 0 ∉ post := by
  have get : ∀ k ∈ httpKeys, (w.get o k).isSome := fun k hk => by
    obtain ⟨v, hv⟩ := hplain k hk
    simp [World.get_of_data hv]
  obtain ⟨d, hd⟩ := Option.isSome_iff_exists.mp (get HTTP_CBDATA (by simp [httpKeys]))
  constructor
  · intro h cb hcb hf
    by_cases hc : ∃ url post, Complete P o mod w cb url post
    · obtain ⟨url, post, hc⟩ := hc
      obtain ⟨-, -, req, -, -, -, ⟨s, -, hs⟩, ⟨t, -, ht⟩, -⟩ := h.all cb url post hc
      exact ⟨url, post, hc, hs ▸ s.noNul, ht ▸ t.noNul⟩
    · -- The request is made all the same, with NULL.
      have hno : ¬∃ url post, Converts P o (w.addContext (freshContext mod o cb d)) url post := by
        simpa only [complete_iff hcb hf hd] using hc
      obtain ⟨v, hv⟩ := jtoCHttpOptions_fails hno (get HTTP_URL (by simp [httpKeys])) (get HTTP_POST (by simp [httpKeys]))
      obtain ⟨r, u, hu, hcalls, -⟩ := httpCallback_asks isolate args hcb hf hd hv
      have hnone : ¬∃ cb url post, Complete P o mod w cb url post := fun hx => by
        obtain ⟨cb', url, post, hx⟩ := hx
        cases hcb.symm.trans hx.ondata.1
        exact hc ⟨url, post, hx⟩
      rw [(h.nothing hnone r u hu).1] at hcalls
      simp at hcalls
  · intro h
    refine ⟨fun cb url post hc => ?_, fun hno r u hu => ?_⟩
    · obtain ⟨hcb, hf⟩ := hc.ondata
      obtain ⟨url', post', hc', hu0, hp0⟩ := h cb hcb hf
      rw [complete_iff hcb hf hd] at hc hc'
      obtain ⟨rfl, rfl⟩ := hc.unique hc'
      obtain ⟨req, v, hv, hurl, hpost⟩ := jtoCHttpOptions_converts hc fun k hk => get k (by simp [httpKeys, hk])
      obtain ⟨r, u, hu, hcalls, hctx⟩ := httpCallback_asks isolate args hcb hf hd hv
      exact ⟨r, u, req, w.nextAddr, hu, hcalls, ⟨_, hurl, cstr_eq_self hu0⟩, ⟨_, hpost, cstr_eq_self hp0⟩, _, hctx, rfl⟩
    · obtain ⟨cb, hcb⟩ := Option.isSome_iff_exists.mp (get HTTP_ONDATA (by simp [httpKeys]))
      refine httpCallback_unasked hcb ?_ hu
      rw [Bool.eq_false_iff]
      intro hf
      obtain ⟨url, post, hc, -⟩ := h cb hcb hf
      exact hno ⟨cb, url, post, hc⟩

end Send

/-- Objects with an `ondata` function, and `v` in every other property. -/
def World.asking (v : JsVal) : World :=
  { World.empty with heap := fun _ k => .data (if k = HTTP_ONDATA then .func 1 else v) }

theorem all_or_nothing_iff_string : AllOrNothing .reference 0 0 0 [] (.asking (.str (utf16 ['a']))) := by
  refine (all_or_nothing_iff fun k _ => ⟨_, rfl⟩).mpr fun cb hcb hf => ?_
  cases hcb
  refine ⟨utf8 ['a'], utf8 ['a'], ⟨⟨rfl, rfl⟩, _, rfl, ⟨_, rfl, rfl, ?_⟩, _, rfl, rfl, ?_⟩, by decide, by decide⟩ <;>
    exact congrArg some (Platform.reference_utf8Inverse.encode ['a'])

/-- Without a `url` the host is asked for NULL. -/
theorem null_requested : ¬∀ (isolate : IsolateId) (o : ObjId) (mod : ModId) (args : List JsVal) (w : World),
    (∀ k ∈ httpKeys, w.Plain o k) → AllOrNothing .reference isolate o mod args w := by
  intro h
  have hno : ¬∃ cb url post, Complete .reference 0 0 (.asking .null) cb url post := by
    intro hx
    obtain ⟨cb, url, post, -, d, -, ⟨v, hv, hn, -⟩, -⟩ := hx
    cases hv
    cases hn
  have hcalls := ((h 0 0 0 [] (.asking .null) fun k _ => ⟨_, rfl⟩).nothing hno _ _ rfl).1
  cases hcalls

end MesiboV8
