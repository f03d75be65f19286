/-
  MesiboV8.System — the module as the host sees it: the entry points of `v8_module.cpp`
  and `mesibo_js_message.cpp`, and the callbacks of the host that go from a request or a
  socket to the processor of its module.

  A module's `ctx` is set when its initialisation has succeeded, so it holds a processor.
  The callbacks lock their isolate with a `v8::Locker`, an initialisation does not; once V8
  has seen a locker it asks for one everywhere.
  The checks of `MESIBO_MODULE_SANITY_CHECK` are not part of the repository; the model
  starts after them.
-/

import MesiboV8.Processor

namespace MesiboV8

open Lib.Bytes Lib.Utf Lib.Effects Act

variable (P : Platform)

/-- `v8_config_t`, as far as it is read after initialisation. -/
structure V8Config where
  ctx : Option Processor

structure System where
  world : World
  /-- A module's `ctx`; `none` is NULL. -/
  configs : ModId → Option V8Config
  nextIsolate : IsolateId
  /-- There has been a `v8::Locker`. -/
  locker : Bool

/-- `v8::Locker locker(isolate)`. -/
def System.lock (s : System) : System := { s with locker := true }

def System.putProcessor (s : System) (mod : ModId) (p : Processor) (w : World) : System :=
  { s with world := w, configs := Function.update s.configs mod (some ⟨some p⟩) }

/-! ## `v8_module.cpp` -/

/-- `mesibo_v8_init`; no processor is NULL. -/
def mesiboV8Init (mod : ModId) (script : Option String) (fs : ScriptFile) (s : System) :
    Except Fault (Option Processor × System) :=
  let isolate := s.nextIsolate
  let s := { s with nextIsolate := isolate + 1 }
  match script with
  | none => .error .strdupNull
  | some script =>
    -- `Initialize` starts with a `HandleScope`, and nothing has locked the isolate
    if s.locker then .error .notLocked
    else
      let w := { s.world with live := .str :: s.world.live }
      match processorInitialize P (.new mod (some script) isolate) fs w with
      | .error f => .error f
      | .ok (rv, p, w) =>
        if P.MESIBO_RESULT_FAIL = rv then .ok (none, { s with world := w }) else .ok (some p, { s with world := w })

/-- The entries of a module's configuration; `none`: `mesibo_util_getconfig` returns NULL. -/
structure ModuleConfig where
  script : Option String
  log : Option String
  deriving DecidableEq

/-- A module without a configuration (`none`) is refused. -/
def mesiboModuleV8Init (m : ModId) (config : Option ModuleConfig) (fs : ScriptFile) (s : System) :
    Except Fault (Int64 × System) :=
  match config with
  | none => .ok (P.MESIBO_RESULT_FAIL, s)
  | some config =>
    -- `atoi` of the log level
    if config.log.isNone then .error .nullDeref
    else match mesiboV8Init P m config.script fs s with
      | .error f => .error f
      | .ok (none, s) => .ok (P.MESIBO_RESULT_FAIL, s)
      | .ok (some mesiboJs, s) => .ok (P.MESIBO_RESULT_OK, s.putProcessor m mesiboJs s.world)

/-! ## `v8_on_message` -/

/-- `((v8_config_t*)mod->ctx)->ctx`, followed. -/
def System.processor (s : System) (mod : ModId) : Option Processor := (s.configs mod).bind (·.ctx)

/-- The copy of the parameters; that of `from` and `to` is never freed. -/
def cloneParams (p : MessageParams) (w : World) : World :=
  { w with live := (p.to_.toList ++ p.from_.toList).map (fun _ => .str) ++ w.live }

def v8OnMessage (mod : ModId) (p : MessageParams) (message : CString) (len : UInt64) (fs : ScriptFile) (s : System) :
    Except Fault (Int64 × System) :=
  match s.processor mod with
  | none => .error .nullDeref
  | some mesiboJs =>
    match onMessage P mesiboJs fs p message len (cloneParams p s.world) with
    | .error f => .error f
    | .ok (rv, mesiboJs, w) => .ok (rv, s.lock.putProcessor mod mesiboJs w)

def v8OnMessageStatus (mod : ModId) (p : MessageParams) (status : UInt64) (fs : ScriptFile) (s : System) :
    Except Fault (Int64 × System) :=
  match s.processor mod with
  | none => .error .nullDeref
  | some mesiboJs =>
    match onMessageStatus P mesiboJs fs p status (cloneParams p s.world) with
    | .error f => .error f
    | .ok (rv, mesiboJs, w) => .ok (rv, s.lock.putProcessor mod mesiboJs w)

/-! ## `js_mesibo_http_onclose` -/

/-- Work with no call of a script below it: what a setter throws there V8 drops. -/
def fromHost {α : Type} (x : Act α) : Act α := fun w =>
  match x w with
  | .ok (a, u) => .ok (a, { u with pending := w.pending })
  | .error f => .error f

/-- What it does once it has a context to run the callback in. -/
def deliverResponse (context : Option CtxId) (cbdata : Addr) : Act Unit := do
  let b ← derefContext cbdata
  match b.httpObj with
  | none => mesiboJsDestroyHttpContext cbdata
  | some jsHttpObj =>
    if b.httpCb.isNullOrUndefined then mesiboJsDestroyHttpContext cbdata
    else match context with
      | none => fault .emptyHandle
      | some context =>
        let _ ← fromHost (ctoJString P jsHttpObj HTTP_RESPONSE (some b.bufferString))
        let _ ← fromHost (ctoJString P jsHttpObj HTTP_RESPONSE_TYPE (some b.responseTypeString))
        let _ ← fromHost (ctoJUint P jsHttpObj HTTP_STATUS b.status.toUInt64)
        modify fun w => (executeJsFunctionObj P context b.httpCb [.object jsHttpObj] w).2
        mesiboJsDestroyHttpContext cbdata

def jsMesiboHttpOnclose (cbdata : Addr) (result : Int64) (fs : ScriptFile) (s : System) : Except Fault System :=
  if P.MESIBO_RESULT_FAIL = result then .ok s
  else match s.world.https cbdata with
    | none => .error .useAfterFree
    | some b =>
      match b.mod with
      | none => .ok s
      | some mod =>
        match s.configs mod with
        | none => .error .nullDeref
        | some vc =>
          match vc.ctx with
          | none => .ok s
          | some mp =>
            match getContext P mp fs s.world with
            | .error f => .error f
            | .ok (_, mp, w) =>
              match deliverResponse P mp.context_ cbdata w with
              | .error f => .error f
              | .ok (_, w) => .ok (s.lock.putProcessor mod mp w)

/-! ## `js_mesibo_socket_ondata`, `js_mesibo_socket_onconnect` -/

def derefSocket (cbdata : Addr) : Act SocketContext := do
  match (← get).sockets cbdata with
  | some b => return b
  | none => fault .useAfterFree

/-- A call of a function of a socket with the socket's `cbdata` and `args`. -/
def callSocketFunction (context : Option CtxId) (b : SocketContext) (jsFun : JsVal) (args : List JsVal) : Act Int64 := do
  match b.jsCbdata, context with
  | some jsCbdata, some context =>
    let r := executeJsFunctionObj P context jsFun (jsCbdata :: args) (← get)
    set r.2
    return r.1
  | _, _ => fault .emptyHandle

/-- `NewFromUtf8(data, len)`: its length is an int, and a negative one stands for that of
    a C string. -/
def newFromUtf8Len (data : Mem) (len : Int64) : Option JsString :=
  let n := len.toInt32.toInt
  P.newFromUtf8 (if n < 0 then cstr (data.read (P.kMaxLength + 1)) else data.read n.toNat)

/-- What `js_mesibo_socket_ondata` does once it has a context. -/
def deliverData (context : Option CtxId) (cbdata : Addr) (data : Mem) (len : Int64) : Act Int64 := do
  let b ← derefSocket cbdata
  match b.jsOndata with
  | none => fault .emptyHandle
  | some jsCbOndata =>
    if jsCbOndata.isNullOrUndefined || len < 0 then return P.MESIBO_RESULT_FAIL
    else
      let string ← toLocalChecked (newFromUtf8Len P data len)
      callSocketFunction P context b jsCbOndata [.str string, .ofUint32 len.toUInt64.toUInt32]

/-- What `js_mesibo_socket_onconnect` does once it has a context. -/
def deliverConnect (context : Option CtxId) (cbdata : Addr) (asock : Int64) : Act Unit := do
  let b ← derefSocket cbdata
  match b.jsOnconnect with
  | none => fault .emptyHandle
  | some jsCbOnconnect =>
    if jsCbOnconnect.isNullOrUndefined then return ()
    else
      let _ ← callSocketFunction P context b jsCbOnconnect [.ofUint32 asock.toUInt64.toUInt32]
      return ()

/-- What the two have in common: `none` without a module or its processor, else what
    `deliver` makes of the context. -/
def onSocket {α : Type} (cbdata : Addr) (fs : ScriptFile) (deliver : Option CtxId → Act α) (s : System) :
    Except Fault (Option α × System) :=
  match s.world.sockets cbdata with
  | none => .error .useAfterFree
  | some b =>
    match b.mod with
    | none => .ok (none, s)
    | some mod =>
      match s.configs mod with
      | none => .error .nullDeref
      | some vc =>
        match vc.ctx with
        | none => .ok (none, s)
        | some mp =>
          match getContext P mp fs s.world with
          | .error f => .error f
          | .ok (_, mp, w) =>
            match deliver mp.context_ w with
            | .error f => .error f
            | .ok (a, w) => .ok (some a, s.lock.putProcessor mod mp w)

def jsMesiboSocketOndata (cbdata : Addr) (data : Mem) (len : Int64) (fs : ScriptFile) (s : System) :
    Except Fault (Int64 × System) :=
  match onSocket P cbdata fs (deliverData P · cbdata data len) s with
  | .error f => .error f
  | .ok (rv, s) => .ok (rv.getD P.MESIBO_RESULT_FAIL, s)

def jsMesiboSocketOnconnect (cbdata : Addr) (asock _fd : Int64) (fs : ScriptFile) (s : System) : Except Fault System :=
  match onSocket P cbdata fs (deliverConnect P · cbdata asock) s with
  | .error f => .error f
  | .ok (_, s) => .ok s

end MesiboV8
