/-
  MesiboV8.Callables — which calls of a script end the process.

  Each registered function comes back unless what it asks V8 for cannot be had
  (`Native.Fails`): a property whose getter throws, a message that cannot be made JSON, a
  `data` that does not convert to a string, a template that was not made or is of another
  isolate, the name of an undefined `Data()`. Then the process ends
  (`callNative_fails_iff`). A script is a run of such calls with JS in between
  (`scriptRun_iff`), so it ends the process at the first call that asks for what it cannot
  have, and nowhere else (`script_fails_iff`).
-/

import MesiboV8.Templates

namespace MesiboV8

open Lib.Bytes Lib.Utf Lib.Effects Lib.Runs Act

variable {P : Platform}

/-! ## How a function fails -/

abbrev Crashes {α : Type} (x : Act α) : Prop := Raises (· = .toLocalChecked) x

theorem toLocalChecked_crashes {α : Type} (x : Option α) : Crashes (toLocalChecked x) := by
  intro w f h
  cases x with
  | none => cases h; rfl
  | some a => cases h

theorem getParamValue_crashes (k : String) (o : ObjId) : Crashes (getParamValue k o) :=
  .bind .get fun _ => toLocalChecked_crashes _

theorem jtoCParamUint_crashes (k : String) (o : ObjId) : Crashes (jtoCParamUint k o) :=
  .bind (getParamValue_crashes k o) fun _ => .pure _

theorem jtoCParamString_crashes (k : String) (o : ObjId) : Crashes (jtoCParamString P k o) := by
  refine .bind (getParamValue_crashes k o) fun v => ?_
  split
  · exact .pure _
  · refine .bind .get fun w => ?_
    cases P.toUtf8 v w with
    | none => exact .pure _
    | some b => exact .bind (fun _ _ h => by cases h) fun _ => .pure _

theorem jtoCMessageParams_crashes (o : ObjId) : Crashes (jtoCMessageParams P o) := by
  have str := fun k => jtoCParamString_crashes (P := P) k o
  have int := fun k => jtoCParamUint_crashes k o
  exact .bind (.modify _) fun _ => .bind (int _) fun _ => .bind (int _) fun _ => .bind (int _) fun _ => .bind (int _) fun _ =>
    .bind (int _) fun _ => .bind (int _) fun _ => .bind (int _) fun _ => .bind (int _) fun _ => .bind (str _) fun _ =>
    .bind (str _) fun _ => .pure _

theorem freeStr_crashes (s : Option CString) : Crashes (freeStr s) := by
  cases s with
  | none => exact .pure _
  | some s => exact .modify _

theorem jtoCHttpOptions_crashes (o : ObjId) : Crashes (jtoCHttpOptions P o) := by
  have str := fun k => jtoCParamString_crashes (P := P) k o
  have int := fun k => jtoCParamUint_crashes k o
  refine .bind (.modify _) fun _ => .bind (str _) fun url => ?_
  cases url with
  | none => exact .pure _
  | some url =>
    refine .bind (str _) fun post => ?_
    cases post with
    | none => exact .pure _
    | some post =>
      refine .bind ?_ fun _ => .pure _
      exact .bind (str _) fun _ => .bind (str _) fun _ => .bind (str _) fun _ => .bind (str _) fun _ =>
        .bind (str _) fun _ => .bind (str _) fun _ => .bind (str _) fun _ => .bind (str _) fun _ => .bind (str _) fun _ =>
        .bind (int _) fun _ => .bind (int _) fun _ => .bind (int _) fun _ => .bind (int _) fun _ => .bind (int _) fun _ =>
        .pure _

/-- What fails with `f₁` exactly without `A`, and with `f₂` exactly without `B`. -/
theorem error_iff_two {α : Type} {x : Except Fault α} {A B : Prop} {f f₁ f₂ : Fault}
    (hok : (∃ r, x = .ok r) ↔ A ∧ B) (h₁ : B → ∀ f, x = .error f → f = f₁) (h₂ : ¬B → A ∧ x = .error f₂) :
    x = .error f ↔ (f = f₁ ∧ ¬A) ∨ (f = f₂ ∧ ¬B) := by
  by_cases hB : B
  · have hf := h₁ hB
    cases hx : x with
    | ok r => simp [hB, (hok.mp ⟨r, hx⟩).1]
    | error g =>
      have hA : ¬A := fun hA => by
        obtain ⟨r, hr⟩ := hok.mpr ⟨hA, hB⟩
        cases hx.symm.trans hr
      rw [hf g hx]
      simp [hA, hB, eq_comm]
  · obtain ⟨hA, hx⟩ := h₂ hB
    rw [hx]
    simp [hA, hB, eq_comm]

/-! ## Messages -/

section Send

variable (hn : P.ShortNames) {info : CallInfo} {w : World} {f : Fault}

include hn

theorem invalidMessage_fault {message : String} (hm : (utf8 message.toList).length ≤ 2 ^ 20)
    (h : invalidMessage P info message w = .error f) : info.data = .undefined := by
  by_contra hd
  obtain ⟨r, hr⟩ := invalidMessage_returns hn hd hm w
  cases hr.symm.trans h

theorem sendPayload_crashes (info : CallInfo) (message : CString) : Crashes (sendPayload P info message) := by
  unfold sendPayload
  cases hm : info.mod with
  | none => exact .pure _
  | some mod =>
    refine .bind (jtoCMessageParams_crashes _) fun p => ?_
    split
    · exact fun _ _ h => absurd (invalidMessage_fault hn (by decide) h) (CallInfo.data_ne_undefined hm)
    · exact .bind .get fun _ => .bind (.modify _) fun _ => .bind (freeStr_crashes _) fun _ =>
        .bind (freeStr_crashes _) fun _ => .bind (.modify _) fun _ => .pure _

theorem messageCallback_crashes (hrep : Native.messageCallback.CanReport info w)
    (h : messageCallback P info w = .error f) : f = .toLocalChecked := by
  cases hm : w.get info.this MESSAGE_MESSAGE with
  | none =>
    unfold messageCallback at h
    rw [get_bind, hm] at h
    cases h
    rfl
  | some m =>
    by_cases hs : (getJsMessageType m).sent
    · rw [messageCallback_sent hm hs] at h
      split at h
      · exact sendPayload_crashes hn _ _ _ _ h
      · cases h
        rfl
    · rw [messageCallback_unsent hm hs] at h
      split at h
      · rename_i hi
        exact absurd ⟨m, hm, .inl ⟨hi, rfl⟩⟩ (hrep (invalidMessage_fault hn (by decide) h) "Invalid: message")
      · cases h

theorem messageCallback_fails_iff : messageCallback P info w = .error f ↔
    (f = .toLocalChecked ∧ ¬SendReturns P info w) ∨ (f = .badCast ∧ ¬Native.messageCallback.CanReport info w) := by
  refine error_iff_two (messageCallback_returns hn info w) (fun hrep _ h => messageCallback_crashes hn hrep h) fun hrep => ?_
  unfold Native.CanReport at hrep
  push Not at hrep
  obtain ⟨hd, message, m, hm, ⟨hi, -⟩ | ⟨-, hmod, -⟩⟩ := hrep
  · have hs : ¬(getJsMessageType m).sent := by rw [hi]; exact Bool.false_ne_true
    refine ⟨⟨m, hm, fun h => absurd h hs⟩, ?_⟩
    rw [messageCallback_unsent hm hs, if_pos hi, invalidMessage_undefined hd]
  · rw [CallInfo.mod, hd] at hmod
    cases hmod

theorem enableCallback_fails_iff (property : String) (value : UInt64) : enableCallback P property value info w = .error f ↔
    (f = .toLocalChecked ∧ info.arg 0 = .bool true ∧ w.get info.this property = none) ∨
      (f = .badCast ∧ ¬(info.arg 0).isBoolean ∧ info.data = .undefined) := by
  unfold enableCallback enableMessageProperty
  by_cases hb : (info.arg 0).isBoolean
  · rw [if_neg (by simp [hb])]
    simp only [hb, not_true_eq_false, false_and, and_false, or_false]
    by_cases ht : info.arg 0 = .bool true
    · rw [if_pos ht]
      cases hv : w.get info.this property with
      | none =>
        have herr : jtoCParamUint property info.this w = .error .toLocalChecked := by
          refine bind_error ?_
          rw [getParamValue, get_bind, hv]
          rfl
        rw [bind_error (bind_error herr)]
        simp [ht, eq_comm]
      | some v =>
        obtain ⟨rv, hset⟩ := setParam_eq (P := P) info.this property (.ofUint32 (uintParam v ||| value).toUInt32) w
        rw [bind_eq ((bind_eq (jtoCParamUint_eq hv)).trans hset)]
        simp
    · rw [if_neg ht]
      simp [ht]
  · rw [if_pos (by simp [hb])]
    have ht : info.arg 0 ≠ .bool true := fun e => hb (by rw [e]; rfl)
    by_cases hd : info.data = .undefined
    · rw [bind_error (bind_error (reportException_undefined hd _ _))]
      simp [ht, hb, hd, eq_comm]
    · obtain ⟨r, hr⟩ := reportException_returns hn hd (show (utf8 "Bad Parameters".toList).length ≤ 2 ^ 20 by decide) w
      rw [bind_eq (bind_eq hr)]
      simp [ht, hd]

/-! ## Requests -/

theorem httpCallback_crashes (hrep : Native.httpCallback.CanReport info w) (h : httpCallback P info w = .error f) :
    f = .toLocalChecked := by
  by_cases hc : info.isConstructCall
  · rw [httpCallback_construct hc] at h
    exact absurd (.inl ⟨hc, rfl⟩) (hrep (invalidMessage_fault hn (by decide) h) "Error: Bad call to class method")
  · cases hcb : w.get info.this HTTP_ONDATA with
    | none =>
      unfold httpCallback at h
      rw [if_neg hc, get_bind, hcb] at h
      cases h
      rfl
    | some cb =>
      by_cases hf : cb.isFunction
      · have hget : (get : Act World) w = .ok (w, w) := rfl
        unfold httpCallback at h
        rw [if_neg hc, bind_eq hget, hcb, bind_eq (toLocalChecked_some cb w), if_neg (by simp [hf])] at h
        refine (?_ : Crashes _) w f h
        refine .bind .get fun w => .bind (toLocalChecked_crashes _) fun d => ?_
        cases info.mod with
        | none => exact .pure _
        | some mod =>
          refine .bind (fun w f h => by rw [jtoCHttpCallbackContext_eq hf] at h; cases h) fun hc => ?_
          cases hc with
          | none => exact .pure _
          | some hc =>
            exact .bind (jtoCHttpOptions_crashes _) fun _ => .bind .get fun _ => .bind (.modify _) fun _ => .pure _
      · rw [httpCallback_noFunction hc hcb hf] at h
        exact absurd (.inr ⟨hc, ⟨cb, hcb, hf⟩, rfl⟩) (hrep (invalidMessage_fault hn (by decide) h) "Bad function")

theorem httpCallback_fails_iff : httpCallback P info w = .error f ↔
    (f = .toLocalChecked ∧ ¬HttpReturns P info w) ∨ (f = .badCast ∧ ¬Native.httpCallback.CanReport info w) := by
  refine error_iff_two (httpCallback_returns hn info w) (fun hrep _ h => httpCallback_crashes hn hrep h) fun hrep => ?_
  unfold Native.CanReport at hrep
  push Not at hrep
  obtain ⟨hd, message, hc⟩ := hrep
  refine ⟨?_, httpCallback_undefined hd hc⟩
  rcases hc with ⟨hc, -⟩ | ⟨-, ⟨g, hg, hfun⟩, -⟩
  · exact .inl hc
  · exact .inr ⟨g, hg, fun h => absurd h hfun⟩

theorem logCallback_fails_iff : logCallback P info w = .error f ↔ f = .badCast ∧ info.args = [] ∧ info.data = .undefined := by
  unfold logCallback
  by_cases ha : info.args = []
  · rw [if_pos (by simp [ha])]
    by_cases hd : info.data = .undefined
    · rw [bind_error (reportException_undefined hd _ _)]
      simp [ha, hd, eq_comm]
    · obtain ⟨r, hr⟩ := reportException_returns hn hd
        (show (utf8 "Syntax Error: Bad Parameters".toList).length ≤ 2 ^ 20 by decide) w
      rw [bind_eq hr]
      simp [hd]
  · rw [if_neg (by simp [ha])]
    simp [ha]

end Send

/-! ## The rest -/

/-- The arguments of a `write` that comes to its data. -/
structure Writes (info : CallInfo) : Prop where
  length : info.args.length = 3
  mod : info.mod.isSome
  sock : (info.arg 0).isNumber
  len : (info.arg 2).isNumber

section Rest

variable {info : CallInfo} {w : World} {f : Fault}

/-- Without an object to make the class functions do nothing. -/
theorem class_refuses {cb : Native} (hcb : cb.isClass = true) (h : ¬Instantiates cb info) (w : World) :
    callNative P cb info w = .ok (.undefined, w) := by
  have quits : ∀ template, ¬info.mod.isSome → classCallback info template w = .ok (.undefined, w) := fun template hm => by
    rw [classCallback, Option.not_isSome_iff_eq_none.mp hm]
    rfl
  cases cb <;> try cases hcb
  · exact quits _ fun hm => h ⟨hm, .inl rfl⟩
  · show httpClassCallback info w = _
    unfold httpClassCallback
    split
    · rfl
    · rename_i hc
      exact quits _ fun hm => h ⟨hm, .inr (by simpa using hc)⟩
  · show socketClassCallback info w = _
    unfold socketClassCallback
    split
    · rfl
    · rename_i hc
      exact quits _ fun hm => h ⟨hm, .inr (by simpa using hc)⟩

/-- How an instantiation fails. -/
def TemplateFails (info : CallInfo) (t : Option ObjectTemplate) (f : Fault) : Prop :=
  (f = .emptyHandle ∧ t = none) ∨ (f = .wrongIsolate ∧ ∃ x, t = some x ∧ x.isolate ≠ info.isolate)

theorem class_fails_iff {cb : Native} (hcb : cb.isClass = true) : callNative P cb info w = .error f ↔
    Instantiates cb info ∧ TemplateFails info (cb.template w.statics) f := by
  by_cases h : Instantiates cb info
  · cases ht : cb.template w.statics with
    | none =>
      have hnew : newFromStatic info.isolate none w = .error .emptyHandle := rfl
      rw [class_instantiates hcb h, ht, bind_error hnew]
      simp [TemplateFails, h, eq_comm]
    | some t =>
      by_cases hi : t.isolate = info.isolate
      · rw [class_own hcb h ht hi]
        simp [TemplateFails, hi]
      · rw [class_foreign hcb h ht hi]
        simp [TemplateFails, h, hi, eq_comm]
  · rw [class_refuses hcb h]
    simp [h]

theorem socketConnectCallback_fails_iff : socketConnectCallback P info w = .error f ↔
    f = .toLocalChecked ∧ ¬info.isConstructCall ∧ w.getFromNewContext info.this SOCKET_CBDATA = none := by
  unfold socketConnectCallback
  by_cases hc : info.isConstructCall
  · rw [if_pos hc]
    simp [hc]
  · rw [if_neg hc, get_bind]
    cases hd : w.getFromNewContext info.this SOCKET_CBDATA with
    | none =>
      rw [bind_error (toLocalChecked_none w)]
      simp [hc, eq_comm]
    | some d =>
      rw [bind_eq (toLocalChecked_some d w)]
      cases info.mod with
      | none => simp
      | some mod =>
        refine iff_of_false (fun h => ?_) (by simp)
        cases h

theorem jtoCString_fails_iff (v : JsVal) : jtoCString P v w = .error f ↔
    f = .strdupNull ∧ ¬v.isNullOrUndefined ∧ P.toUtf8 v w = none := by
  unfold jtoCString
  by_cases hv : v.isNullOrUndefined
  · rw [if_pos hv]
    simp [hv]
  · rw [if_neg hv, get_bind]
    cases P.toUtf8 v w with
    | none => simp [hv, fault, eq_comm]
    | some b =>
      refine iff_of_false (fun h => ?_) (by simp)
      cases h

theorem socketWriteCallback_fails_iff : socketWriteCallback P info w = .error f ↔
    Writes info ∧ f = .strdupNull ∧ ¬(info.arg 1).isNullOrUndefined ∧ P.toUtf8 (info.arg 1) w = none := by
  by_cases hw : Writes info
  · rw [← jtoCString_fails_iff]
    unfold socketWriteCallback
    rw [if_neg (by simp [hw.length]), if_neg (by simp [Option.isSome_iff_ne_none.mp hw.mod]), if_neg (by simp [hw.sock]),
      if_neg (by simp [hw.len])]
    simp only [hw, true_and]
    refine error_iff_of (fun d h => bind_error h) fun r h => ?_
    rw [bind_eq h]
    cases r.1 with
    | none => exact ⟨_, rfl⟩
    | some data => exact ⟨_, rfl⟩
  · refine iff_of_false (fun h => ?_) fun h => hw h.1
    unfold socketWriteCallback at h
    split at h
    · cases h
    split at h
    · cases h
    split at h
    · cases h
    split at h
    · cases h
    rename_i h₁ h₂ h₃ h₄
    exact hw ⟨not_not.mp h₁, by simpa [Option.isSome_iff_ne_none] using h₂, by simpa using h₃, by simpa using h₄⟩

end Rest

/-! ## Any function -/

/-- What the function asks V8 for and cannot have, with what that does to the process. -/
def Native.Fails (P : Platform) (info : CallInfo) (w : World) (f : Fault) (cb : Native) : Prop :=
  match cb with
  | .logCallback => f = .badCast ∧ info.args = [] ∧ info.data = .undefined
  | .messageClassCallback | .httpClassCallback | .socketClassCallback =>
    Instantiates cb info ∧ TemplateFails info (cb.template w.statics) f
  | .messageCallback =>
    (f = .toLocalChecked ∧ ¬SendReturns P info w) ∨ (f = .badCast ∧ ¬Native.messageCallback.CanReport info w)
  | .httpCallback =>
    (f = .toLocalChecked ∧ ¬HttpReturns P info w) ∨ (f = .badCast ∧ ¬Native.httpCallback.CanReport info w)
  | .enableReadReceiptCallback | .enableDeliveryReceiptCallback | .enablePresenceCallback =>
    (f = .toLocalChecked ∧ info.arg 0 = .bool true ∧ w.get info.this MESSAGE_FLAGS = none) ∨
      (f = .badCast ∧ ¬(info.arg 0).isBoolean ∧ info.data = .undefined)
  | .sendIfOnlineCallback =>
    (f = .toLocalChecked ∧ info.arg 0 = .bool true ∧ w.get info.this MESSAGE_TO_ONLINE = none) ∨
      (f = .badCast ∧ ¬(info.arg 0).isBoolean ∧ info.data = .undefined)
  | .socketConnectCallback =>
    f = .toLocalChecked ∧ ¬info.isConstructCall ∧ w.getFromNewContext info.this SOCKET_CBDATA = none
  | .socketWriteCallback =>
    Writes info ∧ f = .strdupNull ∧ ¬(info.arg 1).isNullOrUndefined ∧ P.toUtf8 (info.arg 1) w = none
  | .socketCloseCallback => False

/-- The function ends the process exactly when it asks V8 for what cannot be had. -/
theorem callNative_fails_iff (hn : P.ShortNames) {cb : Native} {info : CallInfo} {w : World} {f : Fault} :
    callNative P cb info w = .error f ↔ cb.Fails P info w f := by
  cases cb with
  | logCallback => exact logCallback_fails_iff hn
  | messageClassCallback => exact class_fails_iff rfl
  | messageCallback => exact messageCallback_fails_iff hn
  | enableReadReceiptCallback => exact enableCallback_fails_iff hn _ _
  | enableDeliveryReceiptCallback => exact enableCallback_fails_iff hn _ _
  | enablePresenceCallback => exact enableCallback_fails_iff hn _ _
  | sendIfOnlineCallback => exact enableCallback_fails_iff hn _ _
  | httpClassCallback => exact class_fails_iff rfl
  | httpCallback => exact httpCallback_fails_iff hn
  | socketClassCallback => exact class_fails_iff rfl
  | socketConnectCallback => exact socketConnectCallback_fails_iff
  | socketWriteCallback => exact socketWriteCallback_fails_iff
  | socketCloseCallback =>
    refine iff_of_false (fun h => ?_) fun h => h
    have h : socketCloseCallback info w = .error f := h
    unfold socketCloseCallback at h
    split at h
    · cases h
    split at h
    · cases h
    split at h
    · cases h
    cases h

/-! ## Scripts -/

/-- What a script does next: JS of its own, or a call of a registered function. -/
inductive ScriptAct where
  | js (heap : ObjId → String → Slot) (nextObj : ObjId) (pending : Option JsVal)
  | native (cb : Native) (info : CallInfo)

def scriptStep (P : Platform) (w : World) : ScriptAct → Except Fault World
  | .js heap nextObj pending => .ok { w with heap := heap, nextObj := nextObj, pending := pending }
  | .native cb info =>
    match callNative P cb info w with
    | .ok (_, u) => .ok u
    | .error f => .error f

theorem scriptStep_ok {w u : World} {cb : Native} {info : CallInfo} :
    scriptStep P w (.native cb info) = .ok u ↔ ∃ r, callNative P cb info w = .ok (r, u) := by
  rw [scriptStep]
  cases hc : callNative P cb info w with
  | ok r => simp [Prod.ext_iff]
  | error f => simp

theorem scriptStep_error {w : World} {cb : Native} {info : CallInfo} {f : Fault} :
    scriptStep P w (.native cb info) = .error f ↔ callNative P cb info w = .error f := by
  rw [scriptStep]
  cases hc : callNative P cb info w with
  | ok r => simp
  | error g => simp

/-- The scripts that come to an end are the runs that do. -/
theorem scriptRun_iff {w u : World} : ScriptRun P w u ↔ ∃ acts, run (scriptStep P) w acts = .ok u := by
  constructor
  · intro h
    induction h with
    | done w => exact ⟨[], rfl⟩
    | js heap nextObj pending _ ih =>
      obtain ⟨acts, ih⟩ := ih
      exact ⟨.js heap nextObj pending :: acts, run_cons_ok.mpr ⟨_, rfl, ih⟩⟩
    | @native w v u cb info r hc _ ih =>
      obtain ⟨acts, ih⟩ := ih
      exact ⟨.native cb info :: acts, run_cons_ok.mpr ⟨v, scriptStep_ok.mpr ⟨r, hc⟩, ih⟩⟩
  · intro h
    obtain ⟨acts, h⟩ := h
    induction acts generalizing w with
    | nil =>
      cases h
      exact .done _
    | cons act acts ih =>
      obtain ⟨v, hv, hrest⟩ := run_cons_ok.mp h
      cases act with
      | js heap nextObj pending =>
        cases hv
        exact .js heap nextObj pending (ih hrest)
      | native cb info =>
        obtain ⟨r, hc⟩ := scriptStep_ok.mp hv
        exact .native hc (ih hrest)

/-- A script ends the process at the first of its calls that asks for what cannot be had; with no such call it
    comes to its end. -/
theorem script_fails_iff (hn : P.ShortNames) {w : World} {acts : List ScriptAct} {f : Fault} :
    run (scriptStep P) w acts = .error f ↔ ∃ before cb info after u, acts = before ++ .native cb info :: after ∧
      run (scriptStep P) w before = .ok u ∧ cb.Fails P info u f := by
  have hstep : ∀ (act : ScriptAct) (u : World), scriptStep P u act = .error f ↔
      ∃ cb info, act = .native cb info ∧ cb.Fails P info u f := by
    intro act u
    cases act with
    | js heap nextObj pending => simp [scriptStep]
    | native cb info =>
      rw [scriptStep_error, callNative_fails_iff hn]
      simp
  rw [run_error]
  constructor
  · intro h
    obtain ⟨before, act, after, u, rfl, hu, hact⟩ := h
    obtain ⟨cb, info, rfl, hf⟩ := (hstep act u).mp hact
    exact ⟨before, cb, info, after, u, rfl, hu, hf⟩
  · intro h
    obtain ⟨before, cb, info, after, u, rfl, hu, hf⟩ := h
    exact ⟨before, .native cb info, after, u, rfl, hu, (hstep _ u).mpr ⟨cb, info, rfl, hf⟩⟩

/-- A symbol cannot be written to a socket. -/
theorem script_fails_symbol : run (scriptStep .reference) .blank
    [.native .messageCallback ⟨0, .external (some 0), [], false, 0⟩,
    .native .socketWriteCallback ⟨0, .external (some 0), [.num (.int 1), .symbol 0, .num (.int 1)], false, 0⟩] =
      .error .strdupNull := by
  obtain ⟨u, hu⟩ : ∃ u, run (scriptStep .reference) .blank
    [.native .messageCallback ⟨0, .external (some 0), [], false, 0⟩] = .ok u := ⟨_, rfl⟩
  have hw : Writes ⟨0, .external (some 0), [.num (.int 1), .symbol 0, .num (.int 1)], false, 0⟩ := ⟨rfl, rfl, rfl, rfl⟩
  exact (script_fails_iff Platform.reference_shortNames).mpr ⟨_, .socketWriteCallback, _, [], u, rfl, hu, hw, rfl, nofun, rfl⟩

end MesiboV8
