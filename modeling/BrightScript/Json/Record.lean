import BrightScript.Json.Basic

namespace BrightScript.Json

/-- The value of a known name, `none` where it is missing; the whole is refused where the name is
repeated. -/
def uniqueMember? (members : List (String × Json)) (name : String) : Option (Option Json) :=
  match members.filter (·.1 == name) with
  | [] => some none
  | [(_, value)] => some (some value)
  | _ => none

/-- The fields of a record, in the order of their names. An array may leave out fields at its
end. -/
def fields? (names : List String) : Json → Option (List (Option Json))
  | .object members => names.mapM (uniqueMember? members)
  | .array items =>
    if items.length ≤ names.length then
      some (items.map some ++ List.replicate (names.length - items.length) none)
    else none
  | _ => none

def text? : Json → Option String
  | .text value => some value
  | _ => none

/-- Reads a whole number below a bound. -/
def natBelow? (bound : Nat) : Json → Option Nat
  | .integer value => if 0 ≤ value ∧ value < bound then some value.toNat else none
  | _ => none

/-- Reads an array whose items can all be read. -/
def list? {α : Type} (item? : Json → Option α) : Json → Option (List α)
  | .array items => items.mapM item?
  | _ => none

/-- Reads an object whose values can all be read. -/
def members? {α : Type} (value? : Json → Option α) : Json → Option (List (String × α))
  | .object members => members.mapM fun (name, value) => (value? value).map (name, ·)
  | _ => none

/-- Reads a field that has a value of its own when it is missing. -/
def fieldOr? {α : Type} (read? : Json → Option α) (missing : α) : Option Json → Option α
  | none => some missing
  | some value => read? value

end BrightScript.Json
