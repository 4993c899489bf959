import BrightScript.Heap.Basic

namespace BrightScript

/-- The most items that an operation may put into a collection. -/
def maxItems : Nat := 0x400000

/-- The most bytes that an operation may put into a text. -/
def maxTextBytes : Nat := 0x1000000

/-- Why a method call or an access to a member fails. -/
inductive MethodError where
  | unknownMethod (kind method : String)
  | unknownMember (kind name : String)
  | arity (method expected : String) (found : Nat)
  | argumentType (method : String) (position : Nat) (expected found : String)
  | failed (method reason : String)
  | released
  deriving DecidableEq, Repr

def MethodError.message : MethodError → String
  | .unknownMethod kind method => "'" ++ kind ++ "' has no method '" ++ method ++ "'"
  | .unknownMember kind name => "'" ++ kind ++ "' has no member '" ++ name ++ "'"
  | .arity method expected found =>
    method ++ "() expects " ++ expected ++ " argument(s), found " ++ toString found
  | .argumentType method position expected found =>
    method ++ "() argument " ++ toString position ++ " must be " ++ expected ++ ", found " ++ found
  | .failed method reason => method ++ "() failed: " ++ reason
  | .released => "Use of a released component"

/-- The text for a range of argument counts. -/
def arityText (least most : Nat) : String :=
  if least = most then toString least else toString least ++ " to " ++ toString most

/-- A call of a method by its lowercase name. -/
structure Call where
  method : String
  arguments : List Value
  deriving DecidableEq, Repr

namespace Call

/-- The call has at least `least` and at most `most` arguments. -/
def expectBetween (call : Call) (least most : Nat) : Except MethodError Unit :=
  let found := call.arguments.length
  if least ≤ found && found ≤ most then .ok ()
  else .error (.arity call.method (arityText least most) found)

def expect (call : Call) (count : Nat) : Except MethodError Unit := call.expectBetween count count

/-- The error of an argument of the wrong type. Positions count from zero. -/
def typeError (call : Call) (position : Nat) (expected : String) : MethodError :=
  .argumentType call.method (position + 1) expected
    ((call.arguments[position]?.map Value.typeName).getD "nothing")

def value (call : Call) (position : Nat) : Except MethodError Value :=
  match call.arguments[position]? with
  | some value => .ok value
  | none => .error (call.typeError position "a value")

def text (call : Call) (position : Nat) : Except MethodError String :=
  match call.arguments[position]? with
  | some (.text value) => .ok value
  | _ => .error (call.typeError position "String")

/-- An argument that is a number, without its fractional part. -/
def integer (call : Call) (position : Nat) : Except MethodError Int64 :=
  match call.arguments[position]?.bind Value.integer? with
  | some value => .ok value
  | none => .error (call.typeError position "Integer")

/-- An argument that counts places from zero; a negative number means none. -/
def index (call : Call) (position : Nat) : Except MethodError (Option Nat) := do
  let value ← call.integer position
  .ok (if value < 0 then none else some value.toNatClampNeg)

/-- An argument that says how many; negative numbers mean zero. -/
def length (call : Call) (position : Nat) : Except MethodError Nat := do
  .ok (← call.integer position).toNatClampNeg

def boolean (call : Call) (position : Nat) : Except MethodError Bool :=
  match call.arguments[position]? with
  | some (.boolean value) => .ok value
  | _ => .error (call.typeError position "Boolean")

def object (call : Call) (position : Nat) : Except MethodError Handle :=
  match call.arguments[position]? with
  | some (.object handle) => .ok handle
  | _ => .error (call.typeError position "Object")

/-- The error of a method that the kind does not have. -/
def unknown (call : Call) (kind : String) : MethodError := .unknownMethod kind call.method

/-- The error of a call that cannot be carried out. -/
def fail (call : Call) (reason : String) : MethodError := .failed call.method reason

/-- A collection may have `count` items. -/
def ensureItems (call : Call) (count : Nat) : Except MethodError Unit :=
  if count > maxItems then
    .error (call.fail (toString count ++ " items exceeds the limit of " ++ toString maxItems))
  else .ok ()

/-- A text may have `count` bytes. -/
def ensureTextBytes (call : Call) (count : Nat) : Except MethodError Unit :=
  if count > maxTextBytes then
    .error (call.fail (toString count ++ " bytes exceeds the limit of " ++ toString maxTextBytes))
  else .ok ()

end Call

/-- The value of a number of things. -/
def Value.ofNat (number : Nat) : Value := .integer (Int64.ofNat number)

/-- The value of an optional handle. -/
def Value.ofHandle? : Option Handle → Value
  | some handle => .object handle
  | none => .invalid

/-- What a successful call leaves behind: the state of its component, the heap, the value of the
call, and warnings. -/
structure Effect (α : Type) where
  state : α
  heap : Heap
  value : Value := .invalid
  warnings : List String := []

namespace Effect

/-- The effect with another form of the component's state. -/
def map {α β : Type} (f : α → β) (effect : Effect α) : Effect β :=
  ⟨f effect.state, effect.heap, effect.value, effect.warnings⟩

/-- A effect whose value is a new component. -/
def made {α : Type} (state : α) (heap : Heap) (component : Component) : Effect α :=
  let (handle, heap) := heap.alloc component
  { state := state, heap := heap, value := .object handle }

end Effect

end BrightScript
