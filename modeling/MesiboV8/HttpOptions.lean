/-
  MesiboV8.HttpOptions — what `JtoC_HttpOptions` makes of the options of a request.

  `requestOptions` pairs each option that the template declares with the field of
  `mesibo_http_t` it is for. Each field is what its option reads as
  (`jtoCHttpOptions_fields`), and every reader tells the values of its option apart
  (`OptionField.read_inj`); only the user agent has no reader. So two objects that differ
  in an option make requests that differ in its field, but for that one
  (`options_injective_iff`).
-/

import MesiboV8.HttpSend
import MesiboV8.MessageCodec

namespace MesiboV8

open Lib.Bytes Lib.Utf Lib.Effects Act

variable {P : Platform}

/-! ## Options and fields -/

/-- Nothing is stored for the user agent: the structure is from `calloc`. -/
def HttpRequest.userAgent (_ : HttpRequest) : Option CString := none

/-- A field of a request, of a string or an integer. -/
inductive OptionField where
  | str (get : HttpRequest → Option CString)
  | uint (get : HttpRequest → UInt64)

/-- The options that are read when `url` and `post` are there. -/
def restOptions : List (String × OptionField) := [
  (HTTP_CONTENT_TYPE, .str (·.contentType)), (HTTP_EXTRA_HEADER, .str (·.extraHeader)),
  (HTTP_REFERRER, .str (·.referrer)), (HTTP_ORIGIN, .str (·.origin)), (HTTP_COOKIE, .str (·.cookie)),
  (HTTP_ENCODING, .str (·.encoding)), (HTTP_CACHE_CONTROL, .str (·.cacheControl)), (HTTP_ACCEPT, .str (·.accept)),
  (HTTP_ETAG, .str (·.etag)), (HTTP_IMS, .uint (·.ims)), (HTTP_CONN_TIMEOUT, .uint (·.connTimeout)),
  (HTTP_HEADER_TIMEOUT, .uint (·.headerTimeout)), (HTTP_BODY_TIMEOUT, .uint (·.bodyTimeout)),
  (HTTP_TOTAL_TIMEOUT, .uint (·.totalTimeout))]

/-- The options that are read. -/
def readOptions : List (String × OptionField) :=
  (HTTP_URL, .str (·.url)) :: (HTTP_POST, .str (·.post)) :: restOptions

/-- The options of a request: properties that the template of its object declares (`requestOptions_declared`). -/
def requestOptions : List (String × OptionField) := (HTTP_USER_AGENT, .str (·.userAgent)) :: readOptions

theorem requestOptions_declared (isolate : IsolateId) (mod : ModId) :
    ∀ k ∈ requestOptions.map (·.1), k ∈ (makeHttpTemplate isolate mod).slots.map (·.1) := by
  show ∀ k ∈ requestOptions.map (·.1), k ∈ (makeHttpTemplate 0 0).slots.map (·.1)
  decide

namespace OptionField

/-- The field of `req` is the property value `v` as read in `w`. -/
def Read (P : Platform) (req : HttpRequest) (v : JsVal) (w : World) : OptionField → Prop
  | str get => get req = stringParam P v w
  | uint get => get req = uintParam v

/-- The fields of the two requests differ. -/
def Differs (req req' : HttpRequest) : OptionField → Prop
  | str get => get req ≠ get req'
  | uint get => get req ≠ get req'

/-- A value an option may have: null, or a well-formed string without NULs, or a positive uint32. -/
def Slot (v : JsVal) : OptionField → Prop
  | str _ => StringSlot v
  | uint _ => v = .null ∨ (v.isUint32 ∧ v ≠ .num (.int 0))

end OptionField

/-! ## Reading -/

/-- Code that reads a string looks it up in the heap it all began with. -/
theorem jtoCParamString_bind_ok {α : Type} {k : String} {o : ObjId} {f : Option CString → Act α} {w₀ w u : World} {a : α}
    (hq : w₀.Quiet w) (h : (jtoCParamString P k o >>= f) w = .ok (a, u)) :
    ∃ v x, w₀.get o k = some v ∧ w₀.Quiet x ∧ f (stringParam P v w) x = .ok (a, u) := by
  obtain ⟨s, x, hs, h⟩ := bind_ok.mp h
  obtain ⟨⟨v, hv, rfl⟩, hx⟩ := jtoCParamString_ok hs
  rw [hq.get] at hv
  exact ⟨v, x, hv, hq.trans hx, h⟩

theorem jtoCHttpOptionsRest_fields {url post : CString} {o : ObjId} {w₀ w u : World} {req : HttpRequest}
    (hq : w₀.Quiet w) (h : jtoCHttpOptionsRest P url post o w = .ok (req, u)) :
    req.url = some url ∧ req.post = some post ∧
      ∀ kf ∈ restOptions, ∃ v x, w₀.get o kf.1 = some v ∧ kf.2.Read P req v x := by
  obtain ⟨v₁, w₁, h₁, q₁, h⟩ := jtoCParamString_bind_ok hq h
  obtain ⟨v₂, w₂, h₂, q₂, h⟩ := jtoCParamString_bind_ok q₁ h
  obtain ⟨v₃, w₃, h₃, q₃, h⟩ := jtoCParamString_bind_ok q₂ h
  obtain ⟨v₄, w₄, h₄, q₄, h⟩ := jtoCParamString_bind_ok q₃ h
  obtain ⟨v₅, w₅, h₅, q₅, h⟩ := jtoCParamString_bind_ok q₄ h
  obtain ⟨v₆, w₆, h₆, q₆, h⟩ := jtoCParamString_bind_ok q₅ h
  obtain ⟨v₇, w₇, h₇, q₇, h⟩ := jtoCParamString_bind_ok q₆ h
  obtain ⟨v₈, w₈, h₈, q₈, h⟩ := jtoCParamString_bind_ok q₇ h
  obtain ⟨v₉, w₉, h₉, q₉, h⟩ := jtoCParamString_bind_ok q₈ h
  simp only [jtoCParamUint_bind] at h
  obtain ⟨n₁, i₁, n₂, i₂, n₃, i₃, n₄, i₄, n₅, i₅, h⟩ := h
  cases h
  rw [q₉.get] at i₁ i₂ i₃ i₄ i₅
  refine ⟨rfl, rfl, ?_⟩
  simp only [restOptions, List.forall_mem_cons, List.not_mem_nil, false_imp_iff, implies_true, and_true]
  exact ⟨⟨v₁, _, h₁, rfl⟩, ⟨v₂, _, h₂, rfl⟩, ⟨v₃, _, h₃, rfl⟩, ⟨v₄, _, h₄, rfl⟩, ⟨v₅, _, h₅, rfl⟩, ⟨v₆, _, h₆, rfl⟩,
    ⟨v₇, _, h₇, rfl⟩, ⟨v₈, _, h₈, rfl⟩, ⟨v₉, _, h₉, rfl⟩, ⟨n₁, w, i₁, rfl⟩, ⟨n₂, w, i₂, rfl⟩, ⟨n₃, w, i₃, rfl⟩,
    ⟨n₄, w, i₄, rfl⟩, ⟨n₅, w, i₅, rfl⟩⟩

/-- Each field of a request is what its option reads as. -/
theorem jtoCHttpOptions_fields {o : ObjId} {w u : World} {req : HttpRequest}
    (h : jtoCHttpOptions P o w = .ok (some req, u)) :
    ∀ kf ∈ readOptions, ∃ v x, w.get o kf.1 = some v ∧ kf.2.Read P req v x := by
  rw [jtoCHttpOptions, bind_eq (malloc_apply _ _)] at h
  obtain ⟨v₁, w₁, h₁, q₁, h⟩ := jtoCParamString_bind_ok (.withLive w _) h
  cases hu : stringParam P v₁ { w with live := .http :: w.live } with
  | none => rw [hu] at h; cases h
  | some url =>
    rw [hu] at h
    obtain ⟨v₂, w₂, h₂, q₂, h⟩ := jtoCParamString_bind_ok q₁ h
    cases hp : stringParam P v₂ w₁ with
    | none => rw [hp] at h; cases h
    | some post =>
      rw [hp] at h
      obtain ⟨req', w₃, hr, h⟩ := bind_ok.mp h
      cases h
      obtain ⟨hurl, hpost, hrest⟩ := jtoCHttpOptionsRest_fields q₂ hr
      rw [readOptions, List.forall_mem_cons, List.forall_mem_cons]
      exact ⟨⟨v₁, _, h₁, hurl.trans hu.symm⟩, ⟨v₂, _, h₂, hpost.trans hp.symm⟩, hrest⟩

/-! ## Telling options apart -/

theorem stringParam_inj (hU : P.Encodes) {v v' : JsVal} (hv : StringSlot v) (hv' : StringSlot v') {w w' : World}
    (h : stringParam P v w = stringParam P v' w') : v = v' := by
  have str : ∀ (cs : List Char) (w : World), '\x00' ∉ cs → (stringParam P (.str (utf16 cs)) w).map (·.bytes) =
      some (utf8 cs) := fun cs w hcs => by
    simp only [stringParam, JsVal.isNullOrUndefined, Platform.toUtf8, Platform.toStr, Option.map_some, hU cs]
    exact congrArg some (cstr_eq_self fun h0 => hcs (zero_mem_utf8 h0))
  have h' := congrArg (Option.map (·.bytes)) h
  rcases hv with rfl | ⟨cs, hcs, rfl⟩ <;> rcases hv' with rfl | ⟨ds, hds, rfl⟩
  · rfl
  · rw [str ds w' hds] at h'
    cases h'
  · rw [str cs w hcs] at h'
    cases h'
  · rw [str cs w hcs, str ds w' hds, Option.some.injEq] at h'
    rw [← utf8Decode_utf8 cs, h', utf8Decode_utf8]

theorem uintParam_inj {v v' : JsVal} (hv : v = .null ∨ (v.isUint32 ∧ v ≠ .num (.int 0)))
    (hv' : v' = .null ∨ (v'.isUint32 ∧ v' ≠ .num (.int 0))) (h : uintParam v = uintParam v') : v = v' := by
  have pos : ∀ {v : JsVal}, v.isUint32 → v ≠ .num (.int 0) → uintParam v ≠ uintParam .null := fun {v} h32 h0 he => by
    rcases uintParam_eq_zero.mp (he.trans rfl) with hn | hz
    · cases v <;> first | cases h32 | cases hn
    · exact h0 hz
  rcases hv with rfl | ⟨h32, h0⟩ <;> rcases hv' with rfl | ⟨h32', h0'⟩
  · rfl
  · exact absurd h.symm (pos h32' h0')
  · exact absurd h (pos h32 h0)
  · obtain ⟨x, rfl⟩ := isUint32_iff.mp h32
    obtain ⟨y, rfl⟩ := isUint32_iff.mp h32'
    rw [uintParam_ofUint32, uintParam_ofUint32] at h
    rw [← UInt32.toUInt32_toUInt64 x, h, UInt32.toUInt32_toUInt64]

/-- A reader tells the values of its option apart. -/
theorem OptionField.read_inj (hU : P.Encodes) {f : OptionField} {req req' : HttpRequest} {v v' : JsVal} {w w' : World}
    (hv : f.Slot v) (hv' : f.Slot v') (hr : f.Read P req v w) (hr' : f.Read P req' v' w') (hne : v ≠ v') :
    f.Differs req req' := by
  cases f with
  | str get => exact fun he => hne (stringParam_inj hU hv hv' (hr.symm.trans (he.trans hr')))
  | uint get => exact fun he => hne (uintParam_inj hv hv' (hr.symm.trans (he.trans hr')))

/-- `req` is made of an object that passes the checks, and whose options have values they may have. -/
structure Makes (P : Platform) (o : ObjId) (w : World) (req : HttpRequest) : Prop where
  slots : ∀ kf ∈ requestOptions, ∃ v, w.heap o kf.1 = .data v ∧ kf.2.Slot v
  made : ∃ u, jtoCHttpOptions P o w = .ok (some req, u)

/-- Where the objects differ in an option, the requests differ in its field. -/
def OptionsShown (o o' : ObjId) (w w' : World) (req req' : HttpRequest) : Prop :=
  ∀ kf ∈ requestOptions, w.get o kf.1 ≠ w'.get o' kf.1 → kf.2.Differs req req'

/-- They do, for every option that the template declares (`requestOptions_declared`), exactly if the objects have the same
    user agent. -/
theorem options_injective_iff (hU : P.Encodes) {o o' : ObjId} {w w' : World} {req req' : HttpRequest}
    (h : Makes P o w req) (h' : Makes P o' w' req') :
    OptionsShown o o' w w' req req' ↔ w.get o HTTP_USER_AGENT = w'.get o' HTTP_USER_AGENT := by
  constructor
  · intro hs
    by_cases he : w.get o HTTP_USER_AGENT = w'.get o' HTTP_USER_AGENT
    · exact he
    · exact absurd rfl (hs (HTTP_USER_AGENT, .str (·.userAgent)) List.mem_cons_self he)
  · intro he kf hkf hne
    obtain ⟨u, hu⟩ := h.made
    obtain ⟨u', hu'⟩ := h'.made
    rcases List.mem_cons.mp hkf with rfl | hread
    · exact absurd he hne
    · obtain ⟨v, x, hv, hr⟩ := jtoCHttpOptions_fields hu kf hread
      obtain ⟨v', x', hv', hr'⟩ := jtoCHttpOptions_fields hu' kf hread
      obtain ⟨y, hy, hslot⟩ := h.slots kf hkf
      obtain ⟨y', hy', hslot'⟩ := h'.slots kf hkf
      cases hv.symm.trans (World.get_of_data hy)
      cases hv'.symm.trans (World.get_of_data hy')
      exact OptionField.read_inj hU hslot hslot' hr hr' fun e => hne (by rw [hv, hv', e])

/-- Objects with a `url`, a `post` and a user agent: "a" for object 0, "b" for the others. -/
def World.agents : World :=
  { World.empty with heap := fun o k => if k = HTTP_USER_AGENT then .data (.str (utf16 [if o = 0 then 'a' else 'b']))
      else if k = HTTP_URL ∨ k = HTTP_POST then .data (.str []) else .data .null }

theorem agents_makes (o : ObjId) : ∃ req, Makes .reference o .agents req := by
  refine ⟨_, ?_, ⟨_, rfl⟩⟩
  simp only [requestOptions, readOptions, restOptions, List.forall_mem_cons, List.not_mem_nil, false_imp_iff,
    implies_true, and_true]
  have null : StringSlot .null := .inl rfl
  have none : (JsVal.null = .null ∨ (JsVal.null.isUint32 ∧ JsVal.null ≠ .num (.int 0))) := .inl rfl
  have empty : StringSlot (.str []) := .inr ⟨[], by simp, rfl⟩
  have agent : '\x00' ∉ [if o = 0 then 'a' else 'b'] := by split <;> decide
  exact ⟨⟨_, rfl, .inr ⟨_, agent, rfl⟩⟩, ⟨_, rfl, empty⟩, ⟨_, rfl, empty⟩, ⟨_, rfl, null⟩, ⟨_, rfl, null⟩, ⟨_, rfl, null⟩,
    ⟨_, rfl, null⟩, ⟨_, rfl, null⟩, ⟨_, rfl, null⟩, ⟨_, rfl, null⟩, ⟨_, rfl, null⟩, ⟨_, rfl, null⟩, ⟨_, rfl, none⟩,
    ⟨_, rfl, none⟩, ⟨_, rfl, none⟩, ⟨_, rfl, none⟩, ⟨_, rfl, none⟩⟩

theorem options_injective_iff_agents : ∃ req req', Makes .reference 1 .agents req ∧ Makes .reference 2 .agents req' ∧
    OptionsShown 1 2 .agents .agents req req' := by
  obtain ⟨req, h⟩ := agents_makes 1
  obtain ⟨req', h'⟩ := agents_makes 2
  exact ⟨req, req', h, h', (options_injective_iff Platform.reference_utf8Inverse.encode h h').mpr rfl⟩

/-- Two objects that differ in nothing but their user agent make the same request. -/
theorem user_agent_lost : ¬∀ (o o' : ObjId) (w w' : World) (req req' : HttpRequest), Makes .reference o w req →
    Makes .reference o' w' req' → OptionsShown o o' w w' req req' := by
  intro h
  obtain ⟨req, h₀⟩ := agents_makes 0
  obtain ⟨req', h₁⟩ := agents_makes 1
  exact h 0 1 .agents .agents req req' h₀ h₁ (HTTP_USER_AGENT, .str (·.userAgent)) List.mem_cons_self (by decide) rfl

end MesiboV8
