/-
  MesiboV8.World — what the module's code reads and writes: JS values and objects, the
  `http_context_t`s and other blocks it allocates, the host calls it has made.

  A JS object is a table of property slots: a plain value, or an accessor given by what
  reading it yields (`none`: the getter throws) and what assigning it throws (`none`: it
  returns). A slot is the outcome of the lookup as the call makes it, after whatever the
  getters, `toJSON` and `toString` that the same call ran before it have done. Every callable
  of the module reads a property at most once in one call, so a table of outcomes describes
  any getter, stateful ones included. Objects have no prototypes: what a script puts on
  `Object.prototype` is not seen on the objects made from a template.

  C++ code is an `Act`: it threads the world and may end the process with a `Fault`
  (a `ToLocalChecked` on an empty value, a `strdup` of NULL, memory misuse).
-/

import MesiboV8.Lib.Bytes
import MesiboV8.Lib.Effects
import Mathlib.Algebra.Group.Int.Defs
import Mathlib.Algebra.Group.Nat.Defs
import Mathlib.Logic.Function.Basic

namespace MesiboV8

open Lib.Bytes

/-! ## JS values -/

abbrev ObjId := Nat
abbrev Addr := Nat
abbrev ModId := Nat
abbrev IsolateId := Nat

/-- A V8 context: the isolate it is of, and which of that isolate's contexts. -/
structure CtxId where
  isolate : IsolateId
  serial : Nat
  deriving DecidableEq, Repr

/-- UTF-16 code units. -/
abbrev JsString := List UInt16

/-- A double: an integral value, or one of the rest (fractions, -0, NaN, infinities). -/
inductive JsNum where
  | int (n : Int)
  | other (k : Nat)
  deriving DecidableEq, Repr

/-- The functions the module registers with V8. -/
inductive Native where
  | logCallback
  | messageClassCallback
  | messageCallback
  | enableReadReceiptCallback
  | enableDeliveryReceiptCallback
  | enablePresenceCallback
  | sendIfOnlineCallback
  | httpClassCallback
  | httpCallback
  | socketClassCallback
  | socketConnectCallback
  | socketWriteCallback
  | socketCloseCallback
  deriving DecidableEq, Repr

/-- A registered function's `Data()`: an `External` with a module pointer, or undefined. -/
inductive Data where
  | undefined
  | external (mod : Option ModId)
  deriving DecidableEq, Repr

inductive JsVal where
  | undefined
  | null
  | bool (b : Bool)
  | num (n : JsNum)
  | str (s : JsString)
  | symbol (k : Nat)
  | bigint (n : Int)
  | object (o : ObjId)
  | uint8Array (o : ObjId)
  /-- A function of the script. -/
  | func (o : ObjId)
  | native (cb : Native) (data : Data)
  deriving DecidableEq, Repr

namespace JsVal

def isNullOrUndefined : JsVal → Bool
  | undefined | null => true
  | _ => false

def isInt32 : JsVal → Bool
  | num (.int n) => -2 ^ 31 ≤ n && n < 2 ^ 31
  | _ => false

def isUint32 : JsVal → Bool
  | num (.int n) => 0 ≤ n && n < 2 ^ 32
  | _ => false

def isString : JsVal → Bool
  | str _ => true
  | _ => false

def isUint8Array : JsVal → Bool
  | uint8Array _ => true
  | _ => false

def isBoolean : JsVal → Bool
  | bool _ => true
  | _ => false

def isFunction : JsVal → Bool
  | func _ | native _ _ => true
  | _ => false

def isObject : JsVal → Bool
  | object _ | uint8Array _ | func _ | native _ _ => true
  | _ => false

def isNumber : JsVal → Bool
  | num _ => true
  | _ => false

/-- The object a value refers to, where it has properties of its own. -/
def objId? : JsVal → Option ObjId
  | object o | uint8Array o | func o => some o
  | _ => none

/-- `Uint32Value`, of a value that is one. -/
def uint32Value : JsVal → UInt32
  | num (.int n) => .ofNat n.toNat
  | _ => 0

/-- `IntegerValue`, of a value that is an int32. -/
def integerValue : JsVal → Int64
  | num (.int n) => .ofInt n
  | _ => 0

def ofInt32 (x : Int32) : JsVal := num (.int x.toInt)

def ofUint32 (x : UInt32) : JsVal := num (.int x.toNat)

theorem isNullOrUndefined_of_isFunction {v : JsVal} (h : v.isFunction) : v.isNullOrUndefined = false := by
  cases v <;> first | rfl | cases h

end JsVal

inductive Slot where
  | data (v : JsVal)
  | accessor (get : Option JsVal) (set : Option JsVal)
  deriving DecidableEq, Repr

/-- `Object::Get`; `none` when the lookup throws. -/
def Slot.get : Slot → Option JsVal
  | data v => some v
  | accessor r _ => r

/-- `Object::Set`: what the setter threw, if it did, and the slot after it. -/
def Slot.set : Slot → JsVal → Option JsVal × Slot
  | data _, v => (none, data v)
  | accessor r e, _ => (e, accessor r e)

/-- `mesibo_message_params_t`, as far as the module reads it. -/
structure MessageParams where
  aid : UInt64
  id : UInt64
  refid : UInt64
  groupid : UInt64
  flags : UInt64
  type : UInt64
  expiry : UInt64
  toOnline : UInt64
  to_ : Option CString
  from_ : Option CString
  deriving DecidableEq

/-- The functions `JtoC_HttpOptions` registers with the host. -/
inductive HttpHook where
  | jsMesiboHttpOndata
  | jsMesiboHttpOnstatus
  | jsMesiboHttpOnclose
  deriving DecidableEq, Repr

/-- `mesibo_http_t`, as far as the module writes it. -/
structure HttpRequest where
  url : Option CString := none
  post : Option CString := none
  contentType : Option CString := none
  extraHeader : Option CString := none
  referrer : Option CString := none
  origin : Option CString := none
  cookie : Option CString := none
  encoding : Option CString := none
  cacheControl : Option CString := none
  accept : Option CString := none
  etag : Option CString := none
  ims : UInt64 := 0
  connTimeout : UInt64 := 0
  headerTimeout : UInt64 := 0
  bodyTimeout : UInt64 := 0
  totalTimeout : UInt64 := 0
  onData : Option HttpHook := none
  onStatus : Option HttpHook := none
  onClose : Option HttpHook := none
  deriving DecidableEq

def HTTP_BUFFER_LEN : Nat := 64 * 1024
def HTTP_RESPONSE_TYPE_LEN : Nat := 1024

/-- `http_context_s`, less the members nothing reads (`ctx_`, `isolate`, `context`). -/
structure HttpContext where
  status : Int64
  responseType : Buf HTTP_RESPONSE_TYPE_LEN
  buffer : Buf HTTP_BUFFER_LEN
  datalen : Int32
  mod : Option ModId
  /-- `none`: a handle on null or undefined. -/
  httpObj : Option ObjId
  httpCb : JsVal
  httpCbdata : JsVal

/-- `socket_context_s`; `none` is an empty handle. -/
structure SocketContext where
  jsCbdata : Option JsVal := none
  jsOnconnect : Option JsVal := none
  jsOndata : Option JsVal := none
  mod : Option ModId := none
  deriving DecidableEq

/-- `mesibo_socket_t`, as far as the module writes it. -/
structure SocketParams where
  keepalive : Int64
  verifyHost : Int64
  deriving DecidableEq

inductive HostCall where
  | mesiboMessage (mod : ModId) (p : MessageParams) (message : CString) (len : Int64)
  | mesiboUtilHttp (req : Option HttpRequest) (cbdata : Addr)
  | mesiboUtilSocketConnect (sock : SocketParams) (cbdata : Addr)
  | mesiboUtilSocketWrite (sock : Int64) (data : CString) (len : Int64)
  | mesiboUtilSocketClose (sock : Int64)
  deriving DecidableEq

inductive Block where
  | str
  | messageParams
  | http
  | socketParams
  deriving DecidableEq, Repr

/-- An `ObjectTemplate`: the isolate that made it and the properties set on it. -/
structure ObjectTemplate where
  isolate : IsolateId
  slots : List (String × JsVal)
  deriving DecidableEq

/-- The static members of `MesiboJsProcessor`. -/
structure Statics where
  messageTemplate : Option ObjectTemplate
  httpTemplate : Option ObjectTemplate
  socketTemplate : Option ObjectTemplate

/-- A call of a JS function by `ExecuteJsFunctionObj`, with the heap it entered. -/
structure Invocation where
  fn : JsVal
  args : List JsVal
  heap : ObjId → String → Slot

structure World where
  heap : ObjId → String → Slot
  nextObj : ObjId
  /-- The isolate whose template an object was made from. -/
  origin : ObjId → Option IsolateId
  /-- A context's `Global()`. -/
  globals : CtxId → Option ObjId
  /-- The global objects of all contexts there have been. -/
  globalObjects : List ObjId
  statics : Statics
  /-- The live `http_context_t`s. -/
  https : Addr → Option HttpContext
  sockets : Addr → Option SocketContext
  nextAddr : Addr
  /-- What `mesibo_js_destroy_http_context` was applied to. -/
  destroyed : List Addr
  /-- The other blocks allocated and not freed. -/
  live : List Block
  calls : List HostCall
  invoked : List Invocation
  /-- The exception a callable has thrown. -/
  pending : Option JsVal

namespace World

def get (w : World) (o : ObjId) (k : String) : Option JsVal := (w.heap o k).get

/-- `Object::Get` on a value that is an object. -/
def getOf (w : World) (v : JsVal) (k : String) : Option JsVal :=
  match v.objId? with
  | some o => w.get o k
  | none => some .undefined

def putSlot (w : World) (o : ObjId) (k : String) (s : Slot) : World :=
  { w with heap := Function.update w.heap o (Function.update (w.heap o) k s) }

def set (w : World) (o : ObjId) (k : String) (v : JsVal) : Option JsVal × World :=
  let r := (w.heap o k).set v
  (r.1, w.putSlot o k r.2)

/-- `NewInstance` in the isolate that made the template. -/
def newInstance (w : World) (t : ObjectTemplate) : ObjId × World :=
  (w.nextObj, { w with
    heap := Function.update w.heap w.nextObj fun k => .data ((t.slots.lookup k).getD .undefined)
    origin := Function.update w.origin w.nextObj (some t.isolate)
    nextObj := w.nextObj + 1 })

/-- A world in which nothing has happened. -/
def empty : World where
  heap := fun _ _ => .data .undefined
  nextObj := 0
  origin := fun _ => none
  globals := fun _ => none
  globalObjects := []
  statics := ⟨none, none, none⟩
  https := fun _ => none
  sockets := fun _ => none
  nextAddr := 0
  destroyed := []
  live := []
  calls := []
  invoked := []
  pending := none

end World

/-! ## Code -/

inductive Fault where
  /-- `ToLocalChecked` on an empty `MaybeLocal`: V8 crashes the process. -/
  | toLocalChecked
  /-- `strdup(NULL)`. -/
  | strdupNull
  | nullDeref
  /-- A `Local` made from an empty `Global` and then used. -/
  | emptyHandle
  /-- A template instantiated in an isolate that did not make it. -/
  | wrongIsolate
  /-- V8 entered without a `v8::Locker` when there has been one in the process. -/
  | notLocked
  /-- `GetName` of undefined, cast to a `Function`. -/
  | badCast
  | useAfterFree
  /-- A `memcpy` that runs out of the arrays it may write. -/
  | outOfBounds
  deriving DecidableEq, Repr

abbrev Act := StateT World (Except Fault)

namespace Act

variable {α : Type}

def fault (f : Fault) : Act α := fun _ => .error f

def toLocalChecked (x : Option α) : Act α :=
  match x with
  | some a => pure a
  | none => fault .toLocalChecked

def malloc (b : Block) : Act Unit := modify fun w => { w with live := b :: w.live }

def free (b : Block) : Act Unit := modify fun w => { w with live := w.live.erase b }

/-- `strdup` of bytes that end in a NUL. -/
def strdup (l : List UInt8) : Act CString := do
  malloc .str
  return .ofBytes l

/-- `free` of a pointer that may be NULL. -/
def freeStr (s : Option CString) : Act Unit :=
  match s with
  | some _ => free .str
  | none => pure ()

def hostCall (c : HostCall) : Act Unit := modify fun w => { w with calls := w.calls ++ [c] }

def throwException (v : JsVal) : Act Unit := modify fun w => { w with pending := some v }

@[simp] theorem pure_apply (a : α) (w : World) : (pure a : Act α) w = .ok (a, w) := rfl

@[simp] theorem toLocalChecked_some (a : α) (w : World) : toLocalChecked (some a) w = .ok (a, w) := rfl

@[simp] theorem toLocalChecked_none (w : World) : toLocalChecked (none : Option α) w = .error .toLocalChecked := rfl

theorem toLocalChecked_ok {x : Option α} {w u : World} {a : α} (h : toLocalChecked x w = .ok (a, u)) :
    x = some a ∧ u = w := by
  cases x with
  | none => cases h
  | some b => cases h; exact ⟨rfl, rfl⟩

@[simp] theorem strdup_apply (l : List UInt8) (w : World) :
    strdup l w = .ok (.ofBytes l, { w with live := .str :: w.live }) := rfl

@[simp] theorem malloc_apply (b : Block) (w : World) : malloc b w = .ok ((), { w with live := b :: w.live }) := rfl

end Act

/-! ## Properties -/

namespace World

theorem heap_putSlot_ne (w : World) {o p : ObjId} {k l : String} (s : Slot) (h : p ≠ o ∨ l ≠ k) :
    (w.putSlot o k s).heap p l = w.heap p l := by
  unfold putSlot
  by_cases e : p = o
  · subst e
    have hl : l ≠ k := h.resolve_left (fun hn => hn rfl)
    simp [Function.update_of_ne hl]
  · simp [Function.update_of_ne e]

/-- A plain data property. -/
def Plain (w : World) (o : ObjId) (k : String) : Prop := ∃ v, w.heap o k = .data v

theorem Plain.set {w : World} {o : ObjId} {k : String} (h : w.Plain o k) (v : JsVal) :
    w.set o k v = (none, w.putSlot o k (.data v)) := by
  obtain ⟨u, hu⟩ := h
  simp [World.set, hu, Slot.set]

theorem Plain.putSlot {w : World} {p : ObjId} {l : String} (h : w.Plain p l) (o : ObjId) (k : String) (v : JsVal) :
    (w.putSlot o k (.data v)).Plain p l := by
  by_cases e : p = o ∧ l = k
  · obtain ⟨rfl, rfl⟩ := e
    exact ⟨v, by simp [World.putSlot]⟩
  · obtain ⟨u, hu⟩ := h
    refine ⟨u, ?_⟩
    rw [heap_putSlot_ne w _ (by by_cases h1 : p = o <;> [exact Or.inr fun h2 => e ⟨h1, h2⟩; exact Or.inl h1]), hu]

theorem get_of_data {w : World} {o : ObjId} {k : String} {v : JsVal} (h : w.heap o k = .data v) :
    w.get o k = some v := by simp [get, h, Slot.get]

theorem newInstance_plain (w : World) (t : ObjectTemplate) (k : String) :
    (w.newInstance t).2.heap w.nextObj k = .data ((t.slots.lookup k).getD .undefined) := by
  simp [newInstance]

end World

end MesiboV8
