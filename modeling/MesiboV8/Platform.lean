/-
  MesiboV8.Platform — what the module is linked with: V8, the host's `module.h`, and the
  scripts V8 runs. All of it is a parameter; the fields that are propositions are what
  the headers document.

  V8 calls that return to C++ are functions of the world. `compile` may fail and `run`
  and `call` may throw (`none`) after changing the world as they like.
-/

import MesiboV8.World
import MesiboV8.Lib.Utf

namespace MesiboV8

open Lib.Bytes Lib.Utf

abbrev ScriptId := Nat

structure Platform where
  MESIBO_RESULT_OK : Int64
  MESIBO_RESULT_FAIL : Int64
  ok_ne_fail : MESIBO_RESULT_OK ≠ MESIBO_RESULT_FAIL
  MODULE_HTTP_STATE_RESPBODY : Int64
  /-- `String::kMaxLength`. -/
  kMaxLength : Nat
  kMaxLength_ge : 2 ^ 28 - 16 ≤ kMaxLength
  /-- `String::NewFromUtf8` of exactly these bytes. -/
  newFromUtf8 : List UInt8 → Option JsString
  /-- It only returns an empty value when the length is over `kMaxLength`. -/
  newFromUtf8_isSome : ∀ b, b.length ≤ kMaxLength → (newFromUtf8 b).isSome
  /-- The bytes `*Utf8Value` points at for a string, without the NUL after them. -/
  utf8Value : JsString → List UInt8
  numberToString : JsNum → JsString
  /-- ToString of an object; `none` when it throws. -/
  objectToString : JsVal → World → Option JsString
  /-- `JSON::Stringify`. -/
  stringify : JsVal → World → Option JsString
  /-- `GetName` of an `External` cast to a `Function`; `none`: undefined. -/
  functionName : Option ModId → Option JsString
  compile : CtxId → JsString → World → Option ScriptId
  run : CtxId → ScriptId → World → Option JsVal × World
  call : CtxId → JsVal → List JsVal → World → Option JsVal × World
  mesiboMessage : ModId → MessageParams → CString → Int64 → World → Int64
  mesiboUtilHttp : Option HttpRequest → Addr → World → Int64
  mesiboUtilSocketConnect : SocketParams → Addr → World → Int64

/-- A literal of the C++ source, as a JS string. -/
def jsLiteral (s : String) : JsString := utf16 s.toList

namespace Platform

variable (P : Platform)

/-- ToString; `none` when it throws. -/
def toStr (v : JsVal) (w : World) : Option JsString :=
  match v with
  | .undefined => some (jsLiteral "undefined")
  | .null => some (jsLiteral "null")
  | .bool b => some (jsLiteral (if b then "true" else "false"))
  | .num n => some (P.numberToString n)
  | .str s => some s
  | .symbol _ => none
  | .bigint n => some (jsLiteral n.repr)
  | _ => P.objectToString v w

/-- `*Utf8Value`: NULL when the conversion to a string throws. -/
def toUtf8 (v : JsVal) (w : World) : Option (List UInt8) := (P.toStr v w).map P.utf8Value

/-- Decoding and encoding are inverse on well-formed strings. -/
structure Utf8Inverse : Prop where
  decode : ∀ cs : List Char, P.newFromUtf8 (utf8 cs) = some (utf16 cs)
  encode : ∀ cs : List Char, P.utf8Value (utf16 cs) = utf8 cs

/-- A well-formed string is read as its UTF-8 encoding. -/
def Encodes : Prop := ∀ cs : List Char, P.utf8Value (utf16 cs) = utf8 cs

/-- The codecs of `Lib.Utf`, and scripts that compile and do nothing. -/
def reference : Platform where
  MESIBO_RESULT_OK := 0
  MESIBO_RESULT_FAIL := -1
  ok_ne_fail := by decide
  MODULE_HTTP_STATE_RESPBODY := 4
  kMaxLength := 2 ^ 30 - 25
  kMaxLength_ge := by decide
  newFromUtf8 := fun b => some (utf16 (utf8Decode b))
  newFromUtf8_isSome := fun _ _ => rfl
  utf8Value := fun s => utf8 (utf16Decode s)
  numberToString := fun
    | .int n => jsLiteral n.repr
    | .other _ => jsLiteral "NaN"
  objectToString := fun _ _ => some (jsLiteral "[object Object]")
  stringify := fun _ _ => some (jsLiteral "{}")
  functionName := fun _ => none
  compile := fun _ _ _ => some 0
  run := fun _ _ w => (some .undefined, w)
  call := fun _ _ _ w => (some .undefined, w)
  mesiboMessage := fun _ _ _ _ _ => 0
  mesiboUtilHttp := fun _ _ _ => 0
  mesiboUtilSocketConnect := fun _ _ _ => 0

theorem reference_utf8Inverse : reference.Utf8Inverse where
  decode := fun cs => by simp [reference, utf8Decode_utf8]
  encode := fun cs => by simp [reference, utf16Decode_utf16]

end Platform

end MesiboV8
