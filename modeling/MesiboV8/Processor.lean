/-
  MesiboV8.Processor — loading and reloading the script and calling its functions
  (`mesibo_js_processor.cpp`).

  `sources` is not in the source: the script each context of the processor was made for,
  by the context's serial number. It says which contexts exist, so that `Context::New`
  gives a fresh one, and what a context was built from.
-/

import MesiboV8.Message
import MesiboV8.Http
import MesiboV8.Socket

namespace MesiboV8

open Lib.Bytes Lib.Utf Lib.Effects Act

variable (P : Platform)

def JS_MESIBO_GLOBAL_OBJECT := "mesibo"
def JS_MESIBO_CLASS_MESSAGE := "Message"
def JS_MESIBO_CLASS_HTTP := "Http"
def JS_MESIBO_CLASS_SOCKET := "Socket"
def JS_MESIBO_LISTENER_ON_MESSAGE := "onmessage"
def JS_MESIBO_LISTENER_ON_MESSAGE_STATUS := "onmessagestatus"
def JS_MESIBO_LISTENER_ON_LOGIN := "onlogin"
def JS_MESIBO_LOG := "log"
def JS_MESIBO_RESULT_FAIL := "RESULT_FAIL"
def JS_MESIBO_RESULT_OK := "RESULT_OK"

/-- A `Global<Function>`: `none` is an empty handle, `some .null` a handle on JS null. -/
abbrev GlobalFunction := Option JsVal

structure Processor where
  mod_ : ModId
  script_ : Option String
  lastchanged_ : Int32
  isolate_ : IsolateId
  context_ : Option CtxId
  jsMesiboOnMessage : GlobalFunction
  jsMesiboOnMessageStatus : GlobalFunction
  jsMesiboOnLogin : GlobalFunction
  sources : List JsString
  deriving DecidableEq

/-- `new MesiboJsProcessor(mod, script, …)` and `SetIsolate`. -/
def Processor.new (mod : ModId) (script : Option String) (isolate : IsolateId) : Processor :=
  ⟨mod, script, 0, isolate, none, none, none, none, []⟩

/-- What a callback finds at the path of the script: `stat`'s `st_mtime`, whether
    `access(F_OK)` finds it, and the bytes `ReadFile` gets (`none`: it fails). -/
structure ScriptFile where
  stat : Option Int64
  access : Bool
  read : Option (List UInt8)
  deriving DecidableEq

/-! ## Templates -/

/-- `SetCallables`, for the static templates: each is made once. -/
def setCallables (p : Processor) (s : Statics) : Statics where
  messageTemplate := some (s.messageTemplate.getD (makeMessageTemplate p.isolate_ p.mod_))
  httpTemplate := some (s.httpTemplate.getD (makeHttpTemplate p.isolate_ p.mod_))
  socketTemplate := some (s.socketTemplate.getD (makeSocketTemplate p.isolate_ p.mod_))

/-- The template of the `mesibo` object. -/
def mesiboGlobal (p : Processor) : ObjectTemplate where
  isolate := p.isolate_
  slots := [
    (JS_MESIBO_LISTENER_ON_MESSAGE, .undefined), (JS_MESIBO_LISTENER_ON_MESSAGE_STATUS, .undefined),
    (JS_MESIBO_LISTENER_ON_LOGIN, .undefined), (JS_MESIBO_LOG, .native .logCallback (.external (some p.mod_))),
    (JS_MESIBO_RESULT_OK, .num (.int P.MESIBO_RESULT_OK.toInt)),
    (JS_MESIBO_RESULT_FAIL, .num (.int P.MESIBO_RESULT_FAIL.toInt))]

/-- The template of the global object: what `SetCallables` and `Initialize` set on it. -/
def globalTemplate (p : Processor) (mesibo : ObjId) : ObjectTemplate where
  isolate := p.isolate_
  slots := [
    (JS_MESIBO_CLASS_MESSAGE, .native .messageClassCallback (.external (some p.mod_))),
    (JS_MESIBO_CLASS_HTTP, .native .httpClassCallback (.external (some p.mod_))),
    (JS_MESIBO_CLASS_SOCKET, .native .socketClassCallback (.external (some p.mod_))),
    (JS_MESIBO_GLOBAL_OBJECT, .object mesibo)]

/-- `Context::New` with the global template. -/
def contextNew (p : Processor) (w : World) : CtxId × World :=
  let (mesibo, w) := w.newInstance (mesiboGlobal P p)
  let (global, w) := w.newInstance (globalTemplate p mesibo)
  let context : CtxId := ⟨p.isolate_, p.sources.length⟩
  (context, { w with
    globals := Function.update w.globals context (some global)
    globalObjects := global :: w.globalObjects })

/-! ## Loading -/

/-- Null where there is no such function. -/
def getGlobalFunction (context : CtxId) (funcName : String) (w : World) : JsVal :=
  match (w.globals context).bind (w.get · JS_MESIBO_GLOBAL_OBJECT) with
  | none => .null
  | some mesibo =>
    if !mesibo.isObject then .null
    else match w.getOf mesibo funcName with
      | none => .null
      | some mesiboFunc => if !mesiboFunc.isFunction then .null else mesiboFunc

def executeScript (p : Processor) (script : JsString) (w : World) : Int64 × Processor × World :=
  let (context, w) := contextNew P p w
  let p := { p with context_ := some context, sources := p.sources ++ [script] }
  match P.compile context script w with
  | none => (P.MESIBO_RESULT_FAIL, p, w)
  | some compiledScript =>
    match P.run context compiledScript w with
    | (none, w) => (P.MESIBO_RESULT_FAIL, p, w)
    | (some _, w) =>
      let p := { p with jsMesiboOnMessage := some (getGlobalFunction context JS_MESIBO_LISTENER_ON_MESSAGE w) }
      if p.jsMesiboOnMessage.isNone then (P.MESIBO_RESULT_FAIL, p, w)
      else (P.MESIBO_RESULT_OK, { p with
        jsMesiboOnMessageStatus := some (getGlobalFunction context JS_MESIBO_LISTENER_ON_MESSAGE_STATUS w)
        jsMesiboOnLogin := some (getGlobalFunction context JS_MESIBO_LISTENER_ON_LOGIN w) }, w)

/-- `ReadFile`: the string of the file's bytes, or empty. -/
def readFile (fs : ScriptFile) : Option JsString := fs.read.bind P.newFromUtf8

/-- `Initialize`. What `ReadFile` returns is unwrapped with `ToLocalChecked`. -/
def processorInitialize (p : Processor) (fs : ScriptFile) (w : World) : Except Fault (Int64 × Processor × World) :=
  let w := { w with statics := setCallables p w.statics }
  if p.script_.isNone then .ok (P.MESIBO_RESULT_FAIL, p, w)
  else if !fs.access then .ok (P.MESIBO_RESULT_FAIL, p, w)
  else match readFile P fs with
    | none => .error .toLocalChecked
    | some source =>
      let (rv, p, w) := executeScript P p source w
      if P.MESIBO_RESULT_FAIL = rv then .ok (P.MESIBO_RESULT_FAIL, p, w) else .ok (P.MESIBO_RESULT_OK, p, w)

def getLastChanged (fs : ScriptFile) : Int64 := fs.stat.getD P.MESIBO_RESULT_FAIL

/-- `isFileChange` of `GetContext`; the comparison is in 64 bits. -/
def isFileChange (p : Processor) (fs : ScriptFile) : Bool :=
  p.lastchanged_ ≠ 0 && p.lastchanged_.toInt64 ≠ getLastChanged P fs

/-- `lastchanged_ = latestchange`, a long stored in an int. -/
def noteChange (p : Processor) (fs : ScriptFile) : Processor :=
  { p with lastchanged_ := (getLastChanged P fs).toInt32 }

/-- `GetContext`, with the result of the reload if there was one. -/
def getContext (p : Processor) (fs : ScriptFile) (w : World) : Except Fault (Option Int64 × Processor × World) :=
  if isFileChange P p fs then
    match processorInitialize P (noteChange P p fs) fs w with
    | .ok (initStatus, p, w) => .ok (some initStatus, p, w)
    | .error f => .error f
  else .ok (none, noteChange P p fs, w)

/-! ## Calling -/

def executeJsFunctionObj (context : CtxId) (jsFun : JsVal) (args : List JsVal) (w : World) : Int64 × World :=
  let w := { w with invoked := w.invoked ++ [⟨jsFun, args, w.heap⟩] }
  match P.call context jsFun args w with
  | (none, w) => (P.MESIBO_RESULT_FAIL, w)
  | (some jsResult, w) => if !jsResult.isInt32 then (P.MESIBO_RESULT_FAIL, w) else (jtoCInt jsResult, w)

/-- `OnMessage`. Neither the payload nor its length is used. -/
def onMessage (p : Processor) (fs : ScriptFile) (params : MessageParams) (_message : CString) (_len : UInt64)
    (w : World) : Except Fault (Int64 × Processor × World) :=
  match getContext P p fs w with
  | .error f => .error f
  | .ok (_, p, w) =>
    match p.context_ with
    | none => .error .emptyHandle
    | some context =>
      match ctoJMessageParams P p.isolate_ params w with
      | .error f => .error f
      | .ok (messageInstance, w) =>
        match p.jsMesiboOnMessage with
        | none => .error .emptyHandle
        | some jsFun =>
          if jsFun.isNullOrUndefined then .ok (P.MESIBO_RESULT_FAIL, p, w)
          else
            let (rv, w) := executeJsFunctionObj P context jsFun [.object messageInstance] w
            .ok (rv, p, w)

/-- `OnMessageStatus`: the listener is looked up in the context each time. -/
def onMessageStatus (p : Processor) (fs : ScriptFile) (params : MessageParams) (status : UInt64) (w : World) :
    Except Fault (Int64 × Processor × World) :=
  match getContext P p fs w with
  | .error f => .error f
  | .ok (_, p, w) =>
    match p.context_ with
    | none => .error .emptyHandle
    | some context =>
      match ctoJMessageParams P p.isolate_ params w with
      | .error f => .error f
      | .ok (messageInstance, w) =>
        let jsFun := getGlobalFunction context JS_MESIBO_LISTENER_ON_MESSAGE_STATUS w
        if jsFun.isNullOrUndefined then .ok (P.MESIBO_RESULT_FAIL, p, w)
        else
          let (rv, w) := executeJsFunctionObj P context jsFun [.object messageInstance, .ofUint32 status.toUInt32] w
          .ok (rv, p, w)

end MesiboV8
