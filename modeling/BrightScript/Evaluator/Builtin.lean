import BrightScript.Decimal.Leading
import BrightScript.Evaluator.Machine
import BrightScript.Text.Case

namespace BrightScript

/-- A built-in function. -/
inductive Builtin where
  | createObject
  | type
  | upper
  | lower
  | length
  | numberText
  | textNumber
  | readFile
  | writeFile
  deriving DecidableEq, Repr

namespace Builtin

def ofName? (name : String) : Option Builtin :=
  match Name.key name with
  | "createobject" => some createObject
  | "type" => some type
  | "ucase" => some upper
  | "lcase" => some lower
  | "len" => some length
  | "str" => some numberText
  | "val" => some textNumber
  | "readasciifile" => some readFile
  | "writeasciifile" => some writeFile
  | _ => none

def expect (name : String) (arguments : List Value) (expected : Nat) : Except RuntimeError Unit :=
  if arguments.length = expected then .ok ()
  else .error (.builtinArity name expected arguments.length)

def text (name : String) (arguments : List Value) (position : Nat) : Except RuntimeError String :=
  match arguments[position]? with
  | some (.text value) => .ok value
  | other =>
    let found := (other.map Value.typeName).getD "nothing"
    .error (.builtinArgument name (position + 1) "String" found)

/-- A number with a space in place of a plus sign. -/
def signedText (value : Value) : String :=
  let text := value.display
  if text.toList.head? = some '-' then text else " " ++ text

/-- The number at the start of a text: a whole number if it is one of moderate size. -/
def numberOf (text : String) : Value :=
  let number := Decimal.leadingNumber text
  if Decimal.isWhole number && number.abs < 9223372036854775808.0 then
    .integer (Decimal.toInt64 number)
  else .float number

/-- The name of the type of a value, which for a component is its kind. -/
def typeOf (heap : Heap) : Value → String
  | .object handle =>
    match heap.get? handle with
    | some component => component.kindName
    | none => "<released>"
  | value => value.typeName

/-- What a function does to the run, once its arguments are found to fit. -/
abbrev Action := RunContext → Value × RunContext

/-- Gives a value and does nothing else. -/
def give (value : Value) : Action := fun context => (value, context)

/-- Creates a component. A failure gives `invalid`. -/
def create (registry : Registry) (kind : String) (arguments : List Value) : Action := fun context =>
  match registry.create context.heap.clock context.catalog kind arguments with
  | .ok creation =>
    let (handle, context) := (context.warn creation.warnings).alloc creation.component
    (.object handle, context)
  | .error _ => (.invalid, context)

/-- Reads a file. A failure gives the empty text. -/
def read (path : String) : Action := fun context =>
  match context.files.readText path with
  | .ok contents => (.text contents, context)
  | .error _ => (.text "", context)

/-- Writes a file, and says whether that was possible. -/
def write (path contents : String) : Action := fun context =>
  match context.files.writeText path contents with
  | .ok files => (.boolean true, { context with files := files })
  | .error _ => (.boolean false, context)

/-- What a built-in function does with arguments, under the name that the program uses. -/
def call (registry : Registry) (name : String) (arguments : List Value) :
    Builtin → Except RuntimeError Action
  | .createObject => do
    let kind ← text name arguments 0
    .ok (RunContext.timed (create registry kind arguments.tail))
  | .type => do
    expect name arguments 1
    .ok fun context => (.text (typeOf context.heap (arguments.headD .invalid)), context)
  | .upper => do
    expect name arguments 1
    .ok (give (.text (Text.upper (← text name arguments 0))))
  | .lower => do
    expect name arguments 1
    .ok (give (.text (Text.lower (← text name arguments 0))))
  | .length => do
    expect name arguments 1
    .ok (give (.ofNat (← text name arguments 0).length))
  | .numberText => do
    expect name arguments 1
    let value := arguments.headD .invalid
    match value.number? with
    | some _ => .ok (give (.text (signedText value)))
    | none => .error (.builtinArgument name 1 "numeric" value.typeName)
  | .textNumber => do
    expect name arguments 1
    .ok (give (numberOf (← text name arguments 0)))
  | .readFile => do
    expect name arguments 1
    .ok (read (← text name arguments 0))
  | .writeFile => do
    expect name arguments 2
    let path ← text name arguments 0
    .ok (write path (← text name arguments 1))

end Builtin

end BrightScript
