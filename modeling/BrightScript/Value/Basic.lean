import BrightScript.Decimal.Shortest

namespace BrightScript

/-- The identity of one run. Every heap belongs to one. -/
structure RunId where
  number : Nat
  deriving DecidableEq, Repr, Inhabited

/-- A handle to a component: the run it belongs to, its slot in the run's heap, and which use of
that slot it means. -/
structure Handle where
  run : RunId
  index : Nat
  generation : Nat
  deriving DecidableEq, Repr, Inhabited

/-- A value. -/
inductive Value where
  | invalid
  | boolean (value : Bool)
  | integer (value : Int64)
  | float (value : Float)
  | text (value : String)
  | object (handle : Handle)
  deriving DecidableEq, Repr, Inhabited

namespace Value

/-- The name of a value's type. -/
def typeName : Value → String
  | .invalid => "Invalid"
  | .boolean _ => "Boolean"
  | .integer _ => "Integer"
  | .float _ => "Float"
  | .text _ => "String"
  | .object _ => "Object"

/-- The text of a text value. -/
def text? : Value → Option String
  | .text value => some value
  | _ => none

/-- A number without its fractional part. -/
def integer? : Value → Option Int64
  | .integer value => some value
  | .float value => some (Decimal.toInt64 value)
  | _ => none

/-- The handle of a component value. -/
def object? : Value → Option Handle
  | .object handle => some handle
  | _ => none

/-- A number as a floating-point number. -/
def number? : Value → Option Float
  | .integer value => some (Float.ofInt value.toInt)
  | .float value => some value
  | _ => none

/-- Whether a value is `invalid`. -/
def isInvalid : Value → Bool
  | .invalid => true
  | _ => false

/-- The handles among values. -/
def handles (values : List Value) : List Handle := values.filterMap object?

/-- The text of a floating-point number. Whole numbers of moderate size are written as integers, so
that a negative zero has no sign. -/
def floatText (value : Float) : String :=
  if Decimal.isWhole value && value.abs < 1e15 then toString (Decimal.toInt64 value).toInt
  else Decimal.text value

/-- The text of a value as it is printed; components have a text of their own. -/
def display : Value → String
  | .invalid => "invalid"
  | .boolean value => if value then "true" else "false"
  | .integer value => toString value.toInt
  | .float value => floatText value
  | .text value => value
  | .object _ => "<Component>"

end Value

end BrightScript
