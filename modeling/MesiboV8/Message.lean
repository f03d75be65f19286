/-
  MesiboV8.Message — the `Message` class of the scripts (`mesibo_js_message.cpp`): its
  template, `send`, the `enable*` callables, and the two conversions between a message
  object and `mesibo_message_params_t`.
-/

import MesiboV8.Util

namespace MesiboV8

open Lib.Bytes Lib.Utf Lib.Effects Act

variable (P : Platform)

def MESSAGE_AID := "aid"
def MESSAGE_ID := "id"
def MESSAGE_REFID := "refid"
def MESSAGE_GROUPID := "groupid"
def MESSAGE_FLAGS := "flags"
def MESSAGE_TYPE := "type"
def MESSAGE_EXPIRY := "expiry"
def MESSAGE_TO_ONLINE := "toOnline"
def MESSAGE_TO := "to"
def MESSAGE_FROM := "from"
def MESSAGE_ENABLE_READ_RECEIPT := "enableReadReceipt"
def MESSAGE_ENABLE_DELIVERY_RECEIPT := "enableDeliveryReceipt"
def MESSAGE_ENABLE_PRESENCE := "enablePresence"
def MESSAGE_SEND_IF_ONLINE := "sendIfOnline"
def MESSAGE_SEND := "send"
def MESSAGE_MESSAGE := "message"

def MESIBO_FLAG_DELIVERYRECEIPT : UInt64 := 0x1
def MESIBO_FLAG_READRECEIPT : UInt64 := 0x2
def MESIBO_FLAG_PRESENCE : UInt64 := 0x8

/-- The integer properties of a message. -/
def intKeys : List String := [MESSAGE_AID, MESSAGE_ID, MESSAGE_REFID, MESSAGE_GROUPID, MESSAGE_FLAGS, MESSAGE_TYPE,
  MESSAGE_EXPIRY, MESSAGE_TO_ONLINE]

/-- The properties `JtoC_MessageParams` reads. -/
def paramKeys : List String := intKeys ++ [MESSAGE_TO, MESSAGE_FROM]

/-! ## The template -/

def makeMessageTemplate (isolate : IsolateId) (mod : ModId) : ObjectTemplate where
  isolate := isolate
  slots := [
    (MESSAGE_AID, .null), (MESSAGE_ID, .null), (MESSAGE_REFID, .null), (MESSAGE_GROUPID, .null),
    (MESSAGE_FLAGS, .null), (MESSAGE_TYPE, .null), (MESSAGE_EXPIRY, .null), (MESSAGE_TO_ONLINE, .null),
    (MESSAGE_SEND, .native .messageCallback (.external (some mod))),
    (MESSAGE_ENABLE_READ_RECEIPT, .native .enableReadReceiptCallback .undefined),
    (MESSAGE_ENABLE_DELIVERY_RECEIPT, .native .enableDeliveryReceiptCallback .undefined),
    (MESSAGE_ENABLE_PRESENCE, .native .enablePresenceCallback .undefined),
    (MESSAGE_SEND_IF_ONLINE, .native .sendIfOnlineCallback .undefined)]

def messageClassCallback (info : CallInfo) : Act JsVal := classCallback info (·.messageTemplate)

/-! ## Conversions -/

def ctoJMessageParams (isolate : IsolateId) (p : MessageParams) : Act ObjId := do
  let messageObj ← newFromStatic isolate (← get).statics.messageTemplate
  let _ ← ctoJUint P messageObj MESSAGE_AID p.aid
  let _ ← ctoJUint P messageObj MESSAGE_ID p.id
  let _ ← ctoJUint P messageObj MESSAGE_REFID p.refid
  let _ ← ctoJUint P messageObj MESSAGE_GROUPID p.groupid
  let _ ← ctoJUint P messageObj MESSAGE_FLAGS p.flags
  let _ ← ctoJUint P messageObj MESSAGE_TYPE p.type
  let _ ← ctoJUint P messageObj MESSAGE_EXPIRY p.expiry
  let _ ← ctoJUint P messageObj MESSAGE_TO_ONLINE p.toOnline
  let _ ← ctoJString P messageObj MESSAGE_TO p.to_
  let _ ← ctoJString P messageObj MESSAGE_FROM p.from_
  return messageObj

def jtoCMessageParams (params : ObjId) : Act MessageParams := do
  malloc .messageParams
  let aid ← jtoCParamUint MESSAGE_AID params
  let id ← jtoCParamUint MESSAGE_ID params
  let refid ← jtoCParamUint MESSAGE_REFID params
  let groupid ← jtoCParamUint MESSAGE_GROUPID params
  let flags ← jtoCParamUint MESSAGE_FLAGS params
  let type ← jtoCParamUint MESSAGE_TYPE params
  let expiry ← jtoCParamUint MESSAGE_EXPIRY params
  let toOnline ← jtoCParamUint MESSAGE_TO_ONLINE params
  let to_ ← jtoCParamString P MESSAGE_TO params
  let from_ ← jtoCParamString P MESSAGE_FROM params
  return { aid, id, refid, groupid, flags, type, expiry, toOnline, to_, from_ }

/-! ## `send` -/

/-- The `MESIBO_JS_TYPE_*` codes. -/
inductive JsMessageType where
  | string
  | integer
  | array
  | object
  | invalid
  deriving DecidableEq, Repr

def getJsMessageType (message : JsVal) : JsMessageType :=
  if message.isInt32 then .integer
  else if message.isString then .string
  else if message.isUint8Array then .array
  else if message.isObject then .object
  else .invalid

/-- The payload of a message of a supported type; NULL is reported by the caller. -/
def messagePayload (messageType : JsMessageType) (argMessage : JsVal) : Act (Option CString) :=
  match messageType with
  | .object => jtoCObjectToString P argMessage
  | _ => jtoCString P argMessage

def invalidMessage (info : CallInfo) (message : String) : Act JsVal := do
  let _ ← reportExceptionInCallable P info message
  return .undefined

/-- The part of `MessageCallback` after the payload. -/
def sendPayload (info : CallInfo) (message : CString) : Act JsVal := do
  match info.mod with
  | none => return .undefined
  | some mod =>
    let p ← jtoCMessageParams P info.this
    if p.aid = 0 ∨ p.id = 0 then invalidMessage P info "Invalid params"
    else
      let len := Int64.ofNat message.bytes.length
      let rv := P.mesiboMessage mod p message len (← get)
      hostCall (.mesiboMessage mod p message len)
      freeStr p.to_
      freeStr p.from_
      free .messageParams
      return .ofInt32 rv.toInt32

def messageCallback (info : CallInfo) : Act JsVal := do
  let argMessage ← toLocalChecked ((← get).get info.this MESSAGE_MESSAGE)
  match getJsMessageType argMessage with
  | .invalid => invalidMessage P info "Invalid: message"
  | .array => return .undefined
  | messageType =>
    match ← messagePayload P messageType argMessage with
    | none => invalidMessage P info "Invalid: message"
    | some message => sendPayload P info message

/-! ## The `enable*` callables -/

def enableMessageProperty (info : CallInfo) (property : String) (value : UInt64) : Act Int64 := do
  if !(info.arg 0).isBoolean then
    let _ ← reportExceptionInCallable P info "Bad Parameters"
    return P.MESIBO_RESULT_FAIL
  if info.arg 0 = .bool true then
    let paramValue ← jtoCParamUint property info.this
    ctoJUint P info.this property (paramValue ||| value)
  else return P.MESIBO_RESULT_OK

/-- The body the four callers of `EnableMessageProperty` share. -/
def enableCallback (property : String) (value : UInt64) (info : CallInfo) : Act JsVal := do
  let rv ← enableMessageProperty P info property value
  return if rv = P.MESIBO_RESULT_FAIL then .undefined else .ofInt32 rv.toInt32

def enableReadReceiptCallback := enableCallback P MESSAGE_FLAGS MESIBO_FLAG_READRECEIPT
def enableDeliveryReceiptCallback := enableCallback P MESSAGE_FLAGS MESIBO_FLAG_DELIVERYRECEIPT
def enablePresenceCallback := enableCallback P MESSAGE_FLAGS MESIBO_FLAG_PRESENCE
def sendIfOnlineCallback := enableCallback P MESSAGE_TO_ONLINE 1

end MesiboV8
