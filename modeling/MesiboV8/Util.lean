/-
  MesiboV8.Util — the conversions between JS and C (`mesibo_js_util.cpp`) and the error
  reporter of the callables (`mesibo_js_debug.cpp`).

  A property key is a literal of the source, so the `NewFromUtf8` of it is not empty.
-/

import MesiboV8.Platform

namespace MesiboV8

open Lib.Bytes Lib.Utf Lib.Effects Act

variable (P : Platform)

def jtoCUint (integer : JsVal) : UInt64 :=
  if !integer.isUint32 then -1 else integer.uint32Value.toUInt64

def jtoCInt (integer : JsVal) : Int64 :=
  if !integer.isInt32 then -1 else integer.integerValue

def jtoCString (string : JsVal) : Act (Option CString) := do
  if string.isNullOrUndefined then return none
  else match P.toUtf8 string (← get) with
    | some value => return some (← strdup value)
    | none => fault .strdupNull

def jtoCObjectToString (jsonObject : JsVal) : Act (Option CString) := do
  let jsonString ← toLocalChecked (P.stringify jsonObject (← get))
  jtoCString P (.str jsonString)

def getParamValue (paramName : String) (params : ObjId) : Act JsVal := do
  toLocalChecked ((← get).get params paramName)

def jtoJParamFunction (funcName : String) (params : ObjId) : Act JsVal := do
  let value ← getParamValue funcName params
  return if value.isFunction then value else .null

def jtoCParamInt (paramName : String) (params : ObjId) : Act Int64 := do
  let value ← getParamValue paramName params
  return if value.isNullOrUndefined then 0 else jtoCInt value

def jtoCParamUint (paramName : String) (params : ObjId) : Act UInt64 := do
  let value ← getParamValue paramName params
  return if value.isNullOrUndefined then 0 else jtoCUint value

def jtoCParamString (paramName : String) (params : ObjId) : Act (Option CString) := do
  let value ← getParamValue paramName params
  if value.isNullOrUndefined then return none
  else match P.toUtf8 value (← get) with
    | none => return none
    | some strValue => return some (← strdup strValue)

/-- `js_params->Set`, with the result codes of its two callers. What a setter throws stays pending. -/
def setParam (jsParams : ObjId) (key : String) (value : JsVal) : Act Int64 := do
  let r := (← get).set jsParams key value
  set r.2
  match r.1 with
  | none => return P.MESIBO_RESULT_OK
  | some exception =>
    throwException exception
    return P.MESIBO_RESULT_FAIL

def ctoJUint (jsParams : ObjId) (key : String) (value : UInt64) : Act Int64 :=
  setParam P jsParams key (.ofUint32 value.toUInt32)

def ctoJString (jsParams : ObjId) (key : String) (value : Option CString) : Act Int64 :=
  match value with
  | none => setParam P jsParams key .null
  | some s => do setParam P jsParams key (.str (← toLocalChecked (P.newFromUtf8 s.bytes)))

/-- What a call of a registered function is given (`FunctionCallbackInfo`). -/
structure CallInfo where
  this : ObjId
  data : Data
  args : List JsVal := []
  isConstructCall : Bool := false
  isolate : IsolateId

namespace CallInfo

/-- `args[i]`: undefined past the end. -/
def arg (info : CallInfo) (i : Nat) : JsVal := info.args.getD i .undefined

/-- The module pointer in `Data()`. -/
def mod (info : CallInfo) : Option ModId :=
  match info.data with
  | .external m => m
  | .undefined => none

end CallInfo

/-- `NewInstance` of a static template in `isolate`. An object of one isolate must not be used in another. -/
def newFromStatic (isolate : IsolateId) (t : Option ObjectTemplate) : Act ObjId := do
  match t with
  | none => fault .emptyHandle
  | some t =>
    if t.isolate ≠ isolate then fault .wrongIsolate
    else
      let r := (← get).newInstance t
      set r.2
      return r.1

/-- What the constructors of `Message`, `Http` and `Socket` share. -/
def classCallback (info : CallInfo) (template : Statics → Option ObjectTemplate) : Act JsVal := do
  match info.mod with
  | none => return .undefined
  | some _ => return .object (← newFromStatic info.isolate (template (← get).statics))

/-- `GetName` of `Data()`, cast to a `Function` whatever it is. -/
def dataName (data : Data) : Act JsVal :=
  match data with
  | .undefined => fault .badCast
  | .external mod => pure (match P.functionName mod with
    | some s => .str s
    | none => .undefined)

/-- Only a name of `Data()` leads to a throw. -/
def reportExceptionInCallable (info : CallInfo) (message : String) : Act JsVal := do
  match ← jtoCString P (← dataName P info.data) with
  | none => return .null
  | some funcName =>
    let exceptionString ← strdup (utf8 "Error in Function ".toList ++ funcName.bytes ++ utf8 ": ".toList ++
      utf8 message.toList ++ utf8 "\n".toList)
    throwException (.str (← toLocalChecked (P.newFromUtf8 exceptionString.bytes)))
    free .str
    free .str
    return .undefined

/-- `LogCallback` prints, and nothing else. -/
def logCallback (info : CallInfo) : Act JsVal := do
  if info.args.isEmpty then
    let _ ← reportExceptionInCallable P info "Syntax Error: Bad Parameters"
    return .undefined
  return .undefined

end MesiboV8
