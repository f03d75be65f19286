/-
  MesiboV8.Socket — the callables of the `Socket` class (`mesibo_js_socket.cpp`).

  `JtoC_SocketParams` gives up on every receiver that is not null or undefined, as it is
  written; a `This()` is never either, so `connect` makes no host call. All it does is leave
  a context with the object's `cbdata` behind (`socketConnectCallback_cases`).
-/

import MesiboV8.Util

namespace MesiboV8

open Lib.Bytes Lib.Utf Lib.Effects Act

variable (P : Platform)

def SOCKET_URL := "url"
def SOCKET_KEEPALIVE := "keepalive"
def SOCKET_VERIFY_HOST := "verifyHost"
def SOCKET_ON_CONNECT := "onconnect"
def SOCKET_ON_DATA := "ondata"
def SOCKET_CONNECT := "connect"
def SOCKET_WRITE := "write"
def SOCKET_CLOSE := "close"
def SOCKET_CBDATA := "cbdata"

def makeSocketTemplate (isolate : IsolateId) (mod : ModId) : ObjectTemplate where
  isolate := isolate
  slots := [
    (SOCKET_URL, .null), (SOCKET_ON_CONNECT, .undefined), (SOCKET_ON_DATA, .undefined),
    (SOCKET_CONNECT, .native .socketConnectCallback (.external (some mod))),
    (SOCKET_WRITE, .native .socketWriteCallback (.external (some mod))),
    (SOCKET_CLOSE, .native .socketCloseCallback (.external (some mod)))]

def socketClassCallback (info : CallInfo) : Act JsVal := do
  if !info.isConstructCall then return .undefined
  else classCallback info (·.socketTemplate)

def putSocket (cbdata : Addr) (sc : SocketContext) : Act Unit :=
  modify fun w => { w with sockets := Function.update w.sockets cbdata (some sc) }

/-- `false`: null was returned. -/
def jtoJSocketCallback (socketParams : ObjId) (cbdata : Addr) (sc : SocketContext) : Act Bool := do
  let onconnect ← jtoJParamFunction SOCKET_ON_CONNECT socketParams
  if onconnect.isNullOrUndefined then return false
  let sc := { sc with jsOnconnect := some onconnect }
  putSocket cbdata sc
  let ondata ← jtoJParamFunction SOCKET_ON_DATA socketParams
  if ondata.isNullOrUndefined then return false
  putSocket cbdata { sc with jsOndata := some ondata }
  return true

def jtoCSocketParams (socketParams : JsVal) (cbdata : Addr) (sc : SocketContext) : Act (Option SocketParams) := do
  if !socketParams.isNullOrUndefined then return none
  match socketParams.objId? with
  | none => fault .nullDeref
  | some o =>
    malloc .socketParams
    let keepalive ← jtoCParamInt SOCKET_KEEPALIVE o
    let verifyHost ← jtoCParamInt SOCKET_VERIFY_HOST o
    if !(← jtoJSocketCallback o cbdata sc) then return none
    return some { keepalive, verifyHost }

/-- `Object::Get` in a context just made: every global object there is belongs to another one, and
    fails its access check. -/
def World.getFromNewContext (w : World) (o : ObjId) (k : String) : Option JsVal :=
  if o ∈ w.globalObjects then none else w.get o k

def socketConnectCallback (info : CallInfo) : Act JsVal := do
  if info.isConstructCall then return .undefined
  let argCbdata ← toLocalChecked ((← get).getFromNewContext info.this SOCKET_CBDATA)
  match info.mod with
  | none => return .undefined
  | some _ =>
    let w ← get
    let sc : SocketContext := { jsCbdata := some argCbdata }
    set { w with nextAddr := w.nextAddr + 1 }
    putSocket w.nextAddr sc
    match ← jtoCSocketParams (.object info.this) w.nextAddr sc with
    | none => return .undefined
    | some sock =>
      let rv := P.mesiboUtilSocketConnect sock w.nextAddr (← get)
      hostCall (.mesiboUtilSocketConnect sock w.nextAddr)
      return .ofInt32 rv.toInt32

def socketWriteCallback (info : CallInfo) : Act JsVal := do
  if info.args.length ≠ 3 then return .undefined
  if info.mod.isNone then return .undefined
  if !(info.arg 0).isNumber then return .undefined
  if !(info.arg 2).isNumber then return .undefined
  let sock := jtoCInt (info.arg 0)
  let len := jtoCInt (info.arg 2)
  match ← jtoCString P (info.arg 1) with
  | none => return .undefined
  | some data =>
    hostCall (.mesiboUtilSocketWrite sock data len)
    free .str
    return .undefined

def socketCloseCallback (info : CallInfo) : Act JsVal := do
  if info.args.length < 1 then return .undefined
  if info.mod.isNone then return .undefined
  if !(info.arg 0).isNumber then return .undefined
  hostCall (.mesiboUtilSocketClose (jtoCInt (info.arg 0)))
  return .undefined

/-! ## `connect` -/

/-- A new `socket_context_t`. -/
def World.addSocket (w : World) (sc : SocketContext) : World :=
  { w with sockets := Function.update w.sockets w.nextAddr (some sc), nextAddr := w.nextAddr + 1 }

theorem World.getFromNewContext_some {w : World} {o : ObjId} {k : String} {v : JsVal}
    (h : w.getFromNewContext o k = some v) : w.get o k = some v := by
  unfold getFromNewContext at h
  split at h
  · cases h
  · exact h

variable {P} in
theorem socketConnectCallback_cases {info : CallInfo} {w u : World} {r : JsVal}
    (h : socketConnectCallback P info w = .ok (r, u)) :
    r = .undefined ∧ (u = w ∨ ∃ d, w.get info.this SOCKET_CBDATA = some d ∧ u = w.addSocket { jsCbdata := some d }) := by
  unfold socketConnectCallback at h
  split at h
  · cases h
    exact ⟨rfl, .inl rfl⟩
  · rw [get_bind, bind_ok] at h
    obtain ⟨d, v, hd, h⟩ := h
    obtain ⟨hd, rfl⟩ := toLocalChecked_ok hd
    have hd := World.getFromNewContext_some hd
    cases hm : info.mod with
    | none => rw [hm] at h; cases h; exact ⟨rfl, .inl rfl⟩
    | some mod => rw [hm] at h; cases h; exact ⟨rfl, .inr ⟨d, hd, rfl⟩⟩

end MesiboV8
