import BrightScript.Method.Procedure

namespace BrightScript

namespace ArrayMethod

/-- The items, filled up with `invalid` until there are `count` of them. -/
def filledTo (items : Array Value) (count : Nat) : Array Value :=
  items ++ Array.replicate (count - items.size) Value.invalid

/-- The items as one text with `separator` between them, if all are texts. -/
def joined (separator : String) (items : List Value) : Option String :=
  (items.mapM Value.text?).map separator.intercalate

/-- The items of the array that an argument names, which may be the receiver itself. -/
def itemsOf? (heap : Heap) (this : Handle) (items : Array Value) (other : Handle) :
    Option (Array Value) :=
  if other = this then some items
  else match heap.get? other with
    | some (.array items) => some items
    | _ => none

def perform (heap : Heap) (this : Handle) (call : Call) : Procedure (Array Value) Value :=
  match call.method with
  | "push" => do
    call.expect 1
    let value ← call.value 0
    modify (·.push value)
    return .invalid
  | "pop" => do
    call.expect 0
    modifyGet fun items => (items.back?.getD .invalid, items.pop)
  | "unshift" => do
    call.expect 1
    let value ← call.value 0
    modify (#[value] ++ ·)
    return .invalid
  | "shift" => do
    call.expect 0
    modifyGet fun items => (items[0]?.getD .invalid, items.extract 1 items.size)
  | "count" => do
    call.expect 0
    return .ofNat (← get).size
  | "isempty" => do
    call.expect 0
    return .boolean (← get).isEmpty
  | "clear" => do
    call.expect 0
    set (#[] : Array Value)
    return .invalid
  | "getentry" => do
    call.expect 1
    let index ← call.index 0
    let items ← get
    return (index.bind (items[·]?)).getD .invalid
  | "setentry" => do
    call.expect 2
    match ← call.index 0 with
    | none => throw (call.fail "index must not be negative")
    | some index =>
      let value ← call.value 1
      if index ≥ (← get).size then
        call.ensureItems (index + 1)
        modify (filledTo · (index + 1))
      modify (·.setIfInBounds index value)
      return .invalid
  | "append" => do
    call.expect 1
    match itemsOf? heap this (← get) (← call.object 0) with
    | none => throw (call.fail "argument must be an roArray")
    | some appended =>
      call.ensureItems ((← get).size + appended.size)
      modify (· ++ appended)
      return .invalid
  | "reverse" => do
    call.expect 0
    modify (·.reverse)
    return .invalid
  | "join" => do
    call.expect 1
    let separator ← call.text 0
    return .text ((joined separator (← get).toList).getD "")
  | _ => throw (call.unknown "roArray")

/-- What a call of a method of an array leaves behind. -/
def call (heap : Heap) (this : Handle) (items : Array Value) (call : Call) :
    Except MethodError (Array Value × Value) :=
  Procedure.outcome Prod.mk (perform heap this call) items

end ArrayMethod

namespace TableMethod

/-- The component that shows one entry. -/
def entry (name : String) (value : Value) : Component :=
  .table (.ofList [("key", .text name), ("value", value)])

def entries (heap : Heap) : List (String × Value) → List Value × Heap
  | [] => ([], heap)
  | (name, value) :: rest =>
    let (handle, heap) := heap.alloc (entry name value)
    let (values, heap) := entries heap rest
    (.object handle :: values, heap)

open Procedure in
def perform (this : Handle) (call : Call) : Procedure (Receiver (NameMap Value)) Value :=
  match call.method with
  | "addreplace" => do
    call.expect 2
    let name ← call.text 0
    let value ← call.value 1
    modifyOwn (·.insert name value)
    return .invalid
  | "lookup" | "lookupci" => do
    call.expect 1
    let name ← call.text 0
    return ((← own).get? name).getD .invalid
  | "doesexist" => do
    call.expect 1
    let name ← call.text 0
    return .boolean ((← own).contains name)
  | "delete" => do
    call.expect 1
    let name ← call.text 0
    let removed := (← own).contains name
    modifyOwn (·.erase name)
    return .boolean removed
  | "count" => do
    call.expect 0
    return .ofNat (← own).size
  | "isempty" => do
    call.expect 0
    return .boolean (← own).isEmpty
  | "clear" => do
    call.expect 0
    modifyOwn fun _ => .empty
    return .invalid
  | "keys" => do
    call.expect 0
    make (.array ((← own).names.map Value.text).toArray)
  | "items" => do
    call.expect 0
    carryOut fun table heap =>
      let (values, heap) := entries heap table.entries
      .made table heap (.array values.toArray)
  | "append" => do
    call.expect 1
    let other ← call.object 0
    if other = this then return .invalid
    else match (← heap).get? other with
      | some (.table added) =>
        modifyOwn (·.insertMany added.entries)
        return .invalid
      | _ => throw (call.fail "argument must be an roAssociativeArray")
  | _ => throw (call.unknown "roAssociativeArray")

/-- What a call of a method of an associative array leaves behind. -/
def call (heap : Heap) (this : Handle) (table : NameMap Value) (call : Call) :
    Except MethodError (Effect (NameMap Value)) :=
  Procedure.outcome Receiver.effect (perform this call) ⟨table, heap, []⟩

end TableMethod

namespace ListMethod

def perform (call : Call) : Procedure (List Value) Value :=
  match call.method with
  | "addhead" | "unshift" => do
    call.expect 1
    let value ← call.value 0
    modify (value :: ·)
    return .invalid
  | "addtail" | "push" => do
    call.expect 1
    let value ← call.value 0
    modify (· ++ [value])
    return .invalid
  | "removehead" | "shift" => do
    call.expect 0
    modifyGet fun items => (items.head?.getD .invalid, items.tail)
  | "removetail" | "pop" => do
    call.expect 0
    modifyGet fun items => (items.getLast?.getD .invalid, items.dropLast)
  | "gethead" => do
    call.expect 0
    return (← get).head?.getD .invalid
  | "gettail" => do
    call.expect 0
    return (← get).getLast?.getD .invalid
  | "getentry" => do
    call.expect 1
    let index ← call.index 0
    let items ← get
    return (index.bind (items[·]?)).getD .invalid
  | "count" => do
    call.expect 0
    return .ofNat (← get).length
  | "isempty" => do
    call.expect 0
    return .boolean (← get).isEmpty
  | "clear" => do
    call.expect 0
    set ([] : List Value)
    return .invalid
  | _ => throw (call.unknown "roList")

/-- What a call of a method of a list leaves behind. -/
def call (items : List Value) (call : Call) : Except MethodError (List Value × Value) :=
  Procedure.outcome Prod.mk (perform call) items

end ListMethod

end BrightScript
