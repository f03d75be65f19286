/-
  MesiboV8.Http — the `Http` class of the scripts and the host's callbacks on a request
  (`mesibo_js_http.cpp`), but for `js_mesibo_http_onclose`, which needs the processor.

  The three members of an `http_context_t` that C strings are read from lie one after
  the other: `response_type`, `buffer`, `datalen`. A read that finds no NUL in an array
  goes on into the next one. A `memcpy` of a response type longer than its array spills
  into `buffer`; past `buffer` lie the length and the pointers the callbacks follow, and
  the model stops there (`Fault.outOfBounds`).
-/

import MesiboV8.Util

namespace MesiboV8

open Lib.Bytes Lib.Utf Lib.Effects Act

variable (P : Platform)

def HTTP_CONTENT_TYPE := "contentType"
def HTTP_EXTRA_HEADER := "headers"
def HTTP_USER_AGENT := "userAgent"
def HTTP_REFERRER := "referrer"
def HTTP_ORIGIN := "origin"
def HTTP_COOKIE := "cookie"
def HTTP_ENCODING := "encoding"
def HTTP_CACHE_CONTROL := "cacheControl"
def HTTP_ACCEPT := "accept"
def HTTP_ETAG := "etag"
def HTTP_IMS := "ims"
def HTTP_CONN_TIMEOUT := "connTimeout"
def HTTP_HEADER_TIMEOUT := "headerTimeout"
def HTTP_BODY_TIMEOUT := "bodyTimeout"
def HTTP_TOTAL_TIMEOUT := "totalTimeout"
def HTTP_DATA := "data"
def HTTP_STATUS := "status"
def HTTP_RESPONSE := "response"
def HTTP_RESPONSE_JSON := "responseJSON"
def HTTP_RESPONSE_TYPE := "responseType"
def HTTP_ONDATA := "ondata"
def HTTP_URL := "url"
def HTTP_POST := "post"
def HTTP_CBDATA := "cbdata"
def HTTP_SEND := "send"

/-! ## The class -/

def makeHttpTemplate (isolate : IsolateId) (mod : ModId) : ObjectTemplate where
  isolate := isolate
  slots := [
    (HTTP_CONTENT_TYPE, .null), (HTTP_EXTRA_HEADER, .null), (HTTP_USER_AGENT, .null), (HTTP_REFERRER, .null),
    (HTTP_ORIGIN, .null), (HTTP_COOKIE, .null), (HTTP_ENCODING, .null), (HTTP_CACHE_CONTROL, .null),
    (HTTP_ACCEPT, .null), (HTTP_ETAG, .null), (HTTP_IMS, .null), (HTTP_CONN_TIMEOUT, .null),
    (HTTP_HEADER_TIMEOUT, .null), (HTTP_BODY_TIMEOUT, .null), (HTTP_BODY_TIMEOUT, .null),
    (HTTP_TOTAL_TIMEOUT, .null), (HTTP_DATA, .null), (HTTP_STATUS, .null), (HTTP_RESPONSE, .null),
    (HTTP_RESPONSE_JSON, .null), (HTTP_RESPONSE_TYPE, .null), (HTTP_URL, .null), (HTTP_POST, .null),
    (HTTP_SEND, .native .httpCallback (.external (some mod)))]

/-- The options read once `url` and `post` are there: strings, then integers. -/
def jtoCHttpOptionsRest (url post : CString) (options : ObjId) : Act HttpRequest := do
  let contentType ← jtoCParamString P HTTP_CONTENT_TYPE options
  let extraHeader ← jtoCParamString P HTTP_EXTRA_HEADER options
  let referrer ← jtoCParamString P HTTP_REFERRER options
  let origin ← jtoCParamString P HTTP_ORIGIN options
  let cookie ← jtoCParamString P HTTP_COOKIE options
  let encoding ← jtoCParamString P HTTP_ENCODING options
  let cacheControl ← jtoCParamString P HTTP_CACHE_CONTROL options
  let accept ← jtoCParamString P HTTP_ACCEPT options
  let etag ← jtoCParamString P HTTP_ETAG options
  let ims ← jtoCParamUint HTTP_IMS options
  let connTimeout ← jtoCParamUint HTTP_CONN_TIMEOUT options
  let headerTimeout ← jtoCParamUint HTTP_HEADER_TIMEOUT options
  let bodyTimeout ← jtoCParamUint HTTP_BODY_TIMEOUT options
  let totalTimeout ← jtoCParamUint HTTP_TOTAL_TIMEOUT options
  return { url, post, contentType, extraHeader, referrer, origin, cookie, encoding, cacheControl, accept, etag, ims,
           connTimeout, headerTimeout, bodyTimeout, totalTimeout, onData := some .jsMesiboHttpOndata,
           onStatus := some .jsMesiboHttpOnstatus, onClose := some .jsMesiboHttpOnclose }

/-- The keys `jtoCHttpOptionsRest` reads. -/
def httpRestKeys : List String := [HTTP_CONTENT_TYPE, HTTP_EXTRA_HEADER, HTTP_REFERRER, HTTP_ORIGIN, HTTP_COOKIE,
  HTTP_ENCODING, HTTP_CACHE_CONTROL, HTTP_ACCEPT, HTTP_ETAG, HTTP_IMS, HTTP_CONN_TIMEOUT, HTTP_HEADER_TIMEOUT,
  HTTP_BODY_TIMEOUT, HTTP_TOTAL_TIMEOUT]

/-- NULL (`none`) leaves what it allocated behind. -/
def jtoCHttpOptions (options : ObjId) : Act (Option HttpRequest) := do
  malloc .http
  match ← jtoCParamString P HTTP_URL options with
  | none => return none
  | some url =>
    match ← jtoCParamString P HTTP_POST options with
    | none => return none
    | some post => return some (← jtoCHttpOptionsRest P url post options)

/-- A context from `calloc`, with its handles set. -/
def freshContext (mod : ModId) (httpObj : ObjId) (httpCb httpCbdata : JsVal) : HttpContext where
  status := 0
  responseType := Buf.zero _
  buffer := Buf.zero _
  datalen := 0
  mod := some mod
  httpObj := some httpObj
  httpCb := httpCb
  httpCbdata := httpCbdata

/-- `none`: NULL. -/
def jtoCHttpCallbackContext (jsObj : ObjId) (jsCb jsCbdata : JsVal) (mod : ModId) : Act (Option Addr) := do
  if !jsCb.isFunction then return none
  let w ← get
  set { w with
    https := Function.update w.https w.nextAddr (some (freshContext mod jsObj jsCb jsCbdata))
    nextAddr := w.nextAddr + 1 }
  return some w.nextAddr

def httpClassCallback (info : CallInfo) : Act JsVal := do
  if !info.isConstructCall then return .undefined
  else classCallback info (·.httpTemplate)

def httpCallback (info : CallInfo) : Act JsVal := do
  if info.isConstructCall then
    let _ ← reportExceptionInCallable P info "Error: Bad call to class method"
    return .undefined
  let argOnData ← toLocalChecked ((← get).get info.this HTTP_ONDATA)
  if !argOnData.isFunction then
    let _ ← reportExceptionInCallable P info "Bad function"
    return .undefined
  let argCbdata ← toLocalChecked ((← get).get info.this HTTP_CBDATA)
  match info.mod with
  | none => return .undefined
  | some mod =>
    match ← jtoCHttpCallbackContext info.this argOnData argCbdata mod with
    | none => return .undefined
    | some hc =>
      let req ← jtoCHttpOptions P info.this
      let rv := P.mesiboUtilHttp req hc (← get)
      hostCall (.mesiboUtilHttp req hc)
      return .ofInt32 rv.toInt32

/-! ## Callbacks of the host -/

/-- `b->…` for a context the host holds. -/
def derefContext (cbdata : Addr) : Act HttpContext := do
  match (← get).https cbdata with
  | some b => return b
  | none => fault .useAfterFree

def putContext (cbdata : Addr) (b : HttpContext) : Act Unit :=
  modify fun w => { w with https := Function.update w.https cbdata (some b) }

def mesiboJsDestroyHttpContext (mc : Addr) : Act Unit := do
  let _ ← derefContext mc
  modify fun w => { w with https := Function.update w.https mc none, destroyed := w.destroyed ++ [mc] }

/-- The body branch of `js_mesibo_http_ondata`; `none`: refused. -/
def storeBody (b : HttpContext) (buffer : Option Mem) (size : Int64) : Except Fault (Option HttpContext) :=
  match buffer with
  | none => .ok (some b)
  | some src =>
    if size = 0 then .ok (some b)
    -- int + long: the sum is taken in 64 bits
    else if Int64.ofNat HTTP_BUFFER_LEN < b.datalen.toInt64 + size then .ok none
    -- memcpy takes a size_t
    else if 0 ≤ b.datalen.toInt ∧ b.datalen.toInt.toNat + size.toUInt64.toNat ≤ HTTP_BUFFER_LEN then
      .ok (some { b with
        buffer := b.buffer.write b.datalen.toInt.toNat src size.toUInt64.toNat
        datalen := (b.datalen.toInt64 + size).toInt32 })
    else .error .outOfBounds

def jsMesiboHttpOndata (cbdata : Addr) (state progress : Int64) (buffer : Option Mem) (size : Int64) : Act Int64 := do
  let b ← derefContext cbdata
  if progress < 0 then
    mesiboJsDestroyHttpContext cbdata
    return P.MESIBO_RESULT_FAIL
  else if P.MODULE_HTTP_STATE_RESPBODY ≠ state then return P.MESIBO_RESULT_OK
  else match storeBody b buffer size with
    | .error f => fault f
    | .ok none => return P.MESIBO_RESULT_FAIL
    | .ok (some b') =>
      putContext cbdata b'
      return P.MESIBO_RESULT_OK

/-- `b->status = status` and the `memcpy` of the response type, its NUL left out. -/
def storeStatus (b : HttpContext) (status : Int64) (responseType : CString) : Except Fault HttpContext :=
  let n := responseType.bytes.length
  if HTTP_RESPONSE_TYPE_LEN + HTTP_BUFFER_LEN < n then .error .outOfBounds
  else .ok { b with
    status := status
    responseType := b.responseType.write 0 (Mem.ofList responseType.bytes) (min n HTTP_RESPONSE_TYPE_LEN)
    buffer := b.buffer.write 0 (Mem.ofList (responseType.bytes.drop HTTP_RESPONSE_TYPE_LEN))
      (n - HTTP_RESPONSE_TYPE_LEN) }

def jsMesiboHttpOnstatus (cbdata : Addr) (status : Int64) (responseType : Option CString) : Act Int64 := do
  match responseType with
  | none => return P.MESIBO_RESULT_FAIL
  | some responseType =>
    let b ← derefContext cbdata
    match b.mod with
    | none => return P.MESIBO_RESULT_FAIL
    | some _ =>
      match storeStatus b status responseType with
      | .error f => fault f
      | .ok b' =>
        putContext cbdata b'
        return P.MESIBO_RESULT_OK

/-! ## Strings in a context -/

/-- The bytes an `int` is stored in, lowest first. -/
def intBytes (x : Int32) : List UInt8 := (List.range 4).map fun i => .ofNat (x.toUInt32.toNat / 256 ^ i % 256)

/-- `b->buffer` as a C string. -/
def HttpContext.bufferString (b : HttpContext) : CString := .ofBytes (b.buffer.bytes ++ intBytes b.datalen)

/-- `b->response_type` as a C string. -/
def HttpContext.responseTypeString (b : HttpContext) : CString :=
  .ofBytes (b.responseType.bytes ++ b.buffer.bytes ++ intBytes b.datalen)

end MesiboV8
