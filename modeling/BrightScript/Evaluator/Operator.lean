import BrightScript.Evaluator.Fault

namespace BrightScript.Operator

/-- How two floating-point numbers compare, if they do. -/
def compareFloat (left right : Float) : Option Ordering :=
  if left < right then some .lt
  else if left == right then some .eq
  else if right < left then some .gt
  else none

/-- The error of operands whose types do not go together. -/
def mismatch (operator : BinaryOperator) (left right : Value) : RuntimeError :=
  .binaryType operator left.typeName right.typeName

/-- How two numbers compare, if they do. -/
def compareNumbers (operator : BinaryOperator) (left right : Value) :
    Except RuntimeError (Option Ordering) :=
  match left.number?, right.number? with
  | some a, some b => .ok (compareFloat a b)
  | _, _ => .error (mismatch operator left right)

/-- How two values compare, if they do. All values can be tested for equality with `invalid`. -/
def compareValues (operator : BinaryOperator) (left right : Value) :
    Except RuntimeError (Option Ordering) :=
  let equality := operator = .equal ∨ operator = .notEqual
  match left, right with
  | .integer a, .integer b => .ok (some (compare a b))
  | .text a, .text b => .ok (some (if a < b then .lt else if a = b then .eq else .gt))
  | .boolean a, .boolean b =>
    if equality then .ok (if a = b then some .eq else none)
    else .error (mismatch operator left right)
  | .object a, .object b =>
    if equality then .ok (if a = b then some .eq else none)
    else .error (mismatch operator left right)
  | .invalid, .invalid =>
    if equality then .ok (some .eq) else .error (mismatch operator left right)
  | .invalid, _ => if equality then .ok none else .error (mismatch operator left right)
  | _, .invalid => if equality then .ok none else .error (mismatch operator left right)
  | _, _ => compareNumbers operator left right

/-- Whether a comparison holds for two operands that compare so. -/
def holds (operator : BinaryOperator) (ordering : Option Ordering) : Bool :=
  match operator with
  | .equal => ordering = some .eq
  | .notEqual => ordering ≠ some .eq
  | .less => ordering = some .lt
  | .lessOrEqual => ordering = some .lt ∨ ordering = some .eq
  | .greater => ordering = some .gt
  | _ => ordering = some .gt ∨ ordering = some .eq

/-- Calculates with whole numbers. Results beyond 64 bits wrap around, and a quotient is a
floating-point number. -/
def integers (operator : BinaryOperator) (left right : Int64) : Except RuntimeError Value :=
  match operator with
  | .add => .ok (.integer (left + right))
  | .subtract => .ok (.integer (left - right))
  | .multiply => .ok (.integer (left * right))
  | _ =>
    if right = 0 then .error .divisionByZero
    else .ok (.float (Float.ofInt left.toInt / Float.ofInt right.toInt))

/-- Calculates with floating-point numbers. -/
def floats (operator : BinaryOperator) (left right : Float) : Float :=
  match operator with
  | .add => left + right
  | .subtract => left - right
  | .multiply => left * right
  | _ => left / right

/-- Joins two texts, unless the result would be too long. -/
def concatenate (left right : String) : Except RuntimeError Value :=
  if left.utf8ByteSize + right.utf8ByteSize > maxTextBytes then .error .textTooLong
  else .ok (.text (left ++ right))

/-- Calculates with numbers of any kind. -/
def numbers (operator : BinaryOperator) (left right : Value) : Except RuntimeError Value :=
  match left.number?, right.number? with
  | some a, some b => .ok (.float (floats operator a b))
  | _, _ => .error (mismatch operator left right)

def arithmetic (operator : BinaryOperator) (left right : Value) : Except RuntimeError Value :=
  match left, right with
  | .text a, .text b =>
    if operator = .add then concatenate a b else .error (mismatch operator left right)
  | .integer a, .integer b => integers operator a b
  | _, _ => numbers operator left right

/-- Applies a binary operator to two values. The operators `and` and `or` decide themselves whether
their right side is needed, and have no place here. -/
def binary (operator : BinaryOperator) (left right : Value) : Except RuntimeError Value :=
  match operator with
  | .or | .and => .error (mismatch operator left right)
  | .add | .subtract | .multiply | .divide => arithmetic operator left right
  | comparison => do .ok (.boolean (holds comparison (← compareValues comparison left right)))

def unary (operator : UnaryOperator) (operand : Value) : Except RuntimeError Value :=
  match operator, operand with
  | .not, .boolean value => .ok (.boolean !value)
  | .negate, .integer value => .ok (.integer (-value))
  | .negate, .float value => .ok (.float (-value))
  | operator, operand => .error (.unaryType operator operand.typeName)

end BrightScript.Operator
