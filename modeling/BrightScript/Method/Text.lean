import BrightScript.Decimal.Leading
import BrightScript.Method.Procedure
import BrightScript.Text.Case
import BrightScript.Text.Search

namespace BrightScript

namespace TextMethod

/-- Carries out a method of a text. Characters are counted from zero. -/
def perform (call : Call) : Procedure String Value :=
  match call.method with
  | "getstring" | "tostr" => do
    call.expect 0
    return .text (← get)
  | "setstring" => do
    call.expect 1
    set (← call.text 0)
    return .invalid
  | "appendstring" => do
    call.expectBetween 1 2
    let added ← call.text 0
    call.ensureTextBytes ((← get).utf8ByteSize + added.utf8ByteSize)
    if call.arguments.length = 2 then
      let length ← call.length 1
      modify (· ++ String.ofList (added.toList.take length))
    else modify (· ++ added)
    return .invalid
  | "len" => do
    call.expect 0
    return .ofNat (← get).length
  | "left" => do
    call.expect 1
    let length ← call.length 0
    return .text (String.ofList ((← get).toList.take length))
  | "right" => do
    call.expect 1
    let length ← call.length 0
    let chars := (← get).toList
    return .text (String.ofList (chars.drop (chars.length - length)))
  | "mid" => do
    call.expectBetween 1 2
    let limit ← if call.arguments.length = 2 then some <$> call.length 1 else pure none
    let chars := (← get).toList.drop (← call.length 0)
    return .text (String.ofList (match limit with
      | some limit => chars.take limit
      | none => chars))
  | "instr" => do
    call.expect 1
    let needle ← call.text 0
    return .integer (match Text.indexOf? needle.toList (← get).toList with
      | some index => Int64.ofNat index
      | none => -1)
  | "replace" => do
    call.expect 2
    let needle ← call.text 0
    if needle.isEmpty then return .text (← get)
    else
      let replacement ← call.text 1
      let replaced := Text.replaceAll needle.toList replacement.toList (← get).toList
      return .text (String.ofList replaced)
  | "trim" => do
    call.expect 0
    return .text (Text.trim (← get))
  | "lcase" => do
    call.expect 0
    return .text (Text.lower (← get))
  | "ucase" => do
    call.expect 0
    return .text (Text.upper (← get))
  | "startswith" => do
    call.expect 1
    let start ← call.text 0
    return .boolean (start.toList.isPrefixOf (← get).toList)
  | "endswith" => do
    call.expect 1
    let ending ← call.text 0
    return .boolean (ending.toList.isSuffixOf (← get).toList)
  | "toint" => do
    call.expect 0
    return .integer (Decimal.toInt64 (Decimal.leadingNumber (← get)))
  | "tofloat" => do
    call.expect 0
    return .float (Decimal.leadingNumber (← get))
  | _ => throw (call.unknown "roString")

/-- What a call of a method of a text leaves behind. -/
def call (value : String) (call : Call) : Except MethodError (String × Value) :=
  Procedure.outcome Prod.mk (perform call) value

end TextMethod

namespace TimespanMethod

/-- Carries out a method of a stopwatch at a time. -/
def perform (clock : Nat) (call : Call) : Procedure Nat Value :=
  match call.method with
  | "mark" => do
    call.expect 0
    set clock
    return .invalid
  | "totalmilliseconds" => do
    call.expect 0
    return .ofNat ((clock - (← get)) / 1000000)
  | "totalseconds" => do
    call.expect 0
    return .ofNat ((clock - (← get)) / 1000000000)
  | _ => throw (call.unknown "roTimespan")

/-- What a call of a method of a stopwatch leaves behind. -/
def call (clock start : Nat) (call : Call) : Except MethodError (Nat × Value) :=
  Procedure.outcome Prod.mk (perform clock call) start

end TimespanMethod

namespace RegexMethod

def textArray (texts : List String) : Component := .array (texts.map Value.text).toArray

def textArrays (heap : Heap) : List (List String) → List Value × Heap
  | [] => ([], heap)
  | texts :: rest =>
    let (handle, heap) := heap.alloc (textArray texts)
    let (values, heap) := textArrays heap rest
    (.object handle :: values, heap)

open Procedure in
def perform (call : Call) : Procedure (Receiver Regex) Value :=
  match call.method with
  | "ismatch" => do
    call.expect 1
    let text ← call.text 0
    return .boolean ((← own).pattern.isMatch text)
  | "match" => do
    call.expect 1
    let text ← call.text 0
    make (textArray ((← own).pattern.firstMatch text))
  | "matchall" => do
    call.expect 1
    let text ← call.text 0
    carryOut fun regex heap =>
      let (values, heap) := textArrays heap (regex.pattern.allMatches text)
      .made regex heap (.array values.toArray)
  | "replace" | "replaceall" => do
    call.expect 2
    let text ← call.text 0
    let replacement ← call.text 1
    let all := call.method == "replaceall"
    return .text ((← own).pattern.replace text replacement all)
  | "split" => do
    call.expect 1
    let text ← call.text 0
    make (textArray ((← own).pattern.split text))
  | _ => throw (call.unknown "roRegex")

/-- What a call of a method of a regular expression leaves behind. -/
def call (heap : Heap) (regex : Regex) (call : Call) : Except MethodError (Effect Regex) :=
  Procedure.outcome Receiver.effect (perform call) ⟨regex, heap, []⟩

end RegexMethod

end BrightScript
