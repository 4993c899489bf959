import BrightScript.Method.Collection
import BrightScript.Method.Node
import BrightScript.Method.Text
import BrightScript.Method.Xml

namespace BrightScript

namespace Component

open Procedure in
/-- Carries out a method of a component that was taken out of the heap. -/
def perform (catalog : NodeCatalog) (this : Handle) (call : Call) :
    Procedure (Receiver Component) Value := fun
  | ⟨.array items, heap, warnings⟩ =>
    leaving (fun items => ⟨.array items, heap, warnings⟩) (ArrayMethod.perform heap this call items)
  | ⟨.table entries, heap, warnings⟩ =>
    leaving (.map .table) (TableMethod.perform this call ⟨entries, heap, warnings⟩)
  | ⟨.list items, heap, warnings⟩ =>
    leaving (fun items => ⟨.list items, heap, warnings⟩) (ListMethod.perform call items)
  | ⟨.timespan start, heap, warnings⟩ =>
    leaving (fun start => ⟨.timespan start, heap, warnings⟩)
      (TimespanMethod.perform heap.clock call start)
  | ⟨.regex data, heap, warnings⟩ =>
    leaving (.map .regex) (RegexMethod.perform call ⟨data, heap, warnings⟩)
  | ⟨.text value, heap, warnings⟩ =>
    leaving (fun value => ⟨.text value, heap, warnings⟩) (TextMethod.perform call value)
  | ⟨.element data, heap, warnings⟩ =>
    leaving (.map .element) (ElementMethod.perform this call ⟨data, heap, warnings⟩)
  | ⟨.elementList elements, heap, warnings⟩ =>
    leaving (.map .elementList) (ElementListMethod.perform call ⟨elements, heap, warnings⟩)
  | ⟨.node data, heap, warnings⟩ =>
    leaving (.map .node) (NodeMethod.perform catalog this call ⟨data, heap, warnings⟩)
  | ⟨.host object, heap, warnings⟩ =>
    .error (call.unknown object.kind) ⟨.host object, heap, warnings⟩

/-- What a call of a method of a component leaves behind. -/
def call (heap : Heap) (catalog : NodeCatalog) (this : Handle) (call : Call)
    (component : Component) : Except MethodError (Effect Component) :=
  Procedure.outcome Receiver.effect (perform catalog this call) ⟨component, heap, []⟩

section Call

variable (heap : Heap) (catalog : NodeCatalog) (this : Handle) (call : Call)

theorem call_array (items : Array Value) : (Component.array items).call heap catalog this call =
    (fun left => ⟨.array left.1, heap, left.2, []⟩) <$> ArrayMethod.call heap this items call := by
  simp only [Component.call, ArrayMethod.call, Procedure.outcome, perform]
  cases ArrayMethod.perform heap this call items <;> rfl

theorem call_table (entries : NameMap Value) :
    (Component.table entries).call heap catalog this call =
      Effect.map .table <$> TableMethod.call heap this entries call := by
  simp only [Component.call, TableMethod.call, Procedure.outcome, perform]
  cases TableMethod.perform this call ⟨entries, heap, []⟩ <;> rfl

theorem call_list (items : List Value) : (Component.list items).call heap catalog this call =
    (fun left => ⟨.list left.1, heap, left.2, []⟩) <$> ListMethod.call items call := by
  simp only [Component.call, ListMethod.call, Procedure.outcome, perform]
  cases ListMethod.perform call items <;> rfl

theorem call_timespan (start : Nat) : (Component.timespan start).call heap catalog this call =
    (fun left => ⟨.timespan left.1, heap, left.2, []⟩) <$>
      TimespanMethod.call heap.clock start call := by
  simp only [Component.call, TimespanMethod.call, Procedure.outcome, perform]
  cases TimespanMethod.perform heap.clock call start <;> rfl

theorem call_regex (data : Regex) : (Component.regex data).call heap catalog this call =
    Effect.map .regex <$> RegexMethod.call heap data call := by
  simp only [Component.call, RegexMethod.call, Procedure.outcome, perform]
  cases RegexMethod.perform call ⟨data, heap, []⟩ <;> rfl

theorem call_text (value : String) : (Component.text value).call heap catalog this call =
    (fun left => ⟨.text left.1, heap, left.2, []⟩) <$> TextMethod.call value call := by
  simp only [Component.call, TextMethod.call, Procedure.outcome, perform]
  cases TextMethod.perform call value <;> rfl

theorem call_element (data : XmlElement) : (Component.element data).call heap catalog this call =
    Effect.map .element <$> ElementMethod.call heap this data call := by
  simp only [Component.call, ElementMethod.call, Procedure.outcome, perform]
  cases ElementMethod.perform this call ⟨data, heap, []⟩ <;> rfl

theorem call_elementList (elements : List Handle) :
    (Component.elementList elements).call heap catalog this call =
      Effect.map .elementList <$> ElementListMethod.call heap elements call := by
  simp only [Component.call, ElementListMethod.call, Procedure.outcome, perform]
  cases ElementListMethod.perform call ⟨elements, heap, []⟩ <;> rfl

theorem call_node (data : Node) : (Component.node data).call heap catalog this call =
    Effect.map .node <$> NodeMethod.call heap catalog this data call := by
  simp only [Component.call, NodeMethod.call, Procedure.outcome, perform]
  cases NodeMethod.perform catalog this call ⟨data, heap, []⟩ <;> rfl

end Call

/-- The member of a component, which is `invalid` if it has none of that name. -/
def member (name : String) : Component → Except MethodError Value
  | .table entries => .ok ((entries.get? name).getD .invalid)
  | .node data => .ok ((data.fields.get? name).getD .invalid)
  | .host object => .ok ((object.fields.get? name).getD .invalid)
  | other => .error (.unknownMember other.kindName name)

/-- Writes a member into a component. -/
def writeMember (name : String) (value : Value) : Procedure Component Unit := fun
  | .table entries => .ok () (.table (entries.insert name value))
  | .node data => .ok () (.node (data.setField name value))
  | .host object => .ok () (.host (object.setField name value))
  | other => .error (.unknownMember other.kindName name) other

/-- The component with a member set. -/
def setMember (name : String) (value : Value) (component : Component) :
    Except MethodError Component :=
  Procedure.outcome (fun component _ => component) (writeMember name value) component

end Component

namespace Heap

/-- The result of a method call, the heap afterwards, and warnings. -/
structure CallResult where
  result : Except MethodError Value
  heap : Heap
  warnings : List String := []

/-- Calls a method. The component is taken out of the heap meanwhile and then put back as the method
leaves it, also when the method fails. -/
def callMethod (heap : Heap) (catalog : NodeCatalog) (this : Handle) (method : String)
    (arguments : List Value) : CallResult :=
  match heap.take? this with
  | none => { result := .error .released, heap := heap }
  | some (component, lent) =>
    match Component.perform catalog this ⟨Name.key method, arguments⟩ ⟨component, lent, []⟩ with
    | .ok value ⟨component, heap, warnings⟩ =>
      { result := .ok value, heap := heap.restore this component, warnings := warnings }
    | .error e ⟨component, heap, warnings⟩ =>
      { result := .error e, heap := heap.restore this component, warnings := warnings }

def getMember (heap : Heap) (this : Handle) (name : String) : Except MethodError Value :=
  match heap.get? this with
  | some component => component.member name
  | none => .error .released

/-- Writes a member; gives the result and the heap afterwards. -/
def writeMember (heap : Heap) (this : Handle) (name : String) (value : Value) :
    Except MethodError Unit × Heap :=
  match heap.get? this with
  | none => (.error .released, heap)
  | some component =>
    match Component.writeMember name value component with
    | .ok () component => (.ok (), heap.set this component)
    | .error e component => (.error e, heap.set this component)

/-- The heap with a member set. -/
def setMember (heap : Heap) (this : Handle) (name : String) (value : Value) :
    Except MethodError Heap :=
  match heap.writeMember this name value with
  | (.ok (), heap) => .ok heap
  | (.error e, _) => .error e

end Heap

end BrightScript
