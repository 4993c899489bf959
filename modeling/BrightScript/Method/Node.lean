import BrightScript.Method.Procedure
import BrightScript.Scene.Kind

/-!
Methods of scene-graph nodes. Nodes form trees: a node has at most one parent, and cannot become a
child of itself or of a node below it.
-/

namespace BrightScript

namespace Heap

def modifyNode (heap : Heap) (handle : Handle) (change : Node → Node) : Heap :=
  match heap.get? handle with
  | some (.node node) => heap.set handle (.node (change node))
  | _ => heap

/-- Whether a handle is met on the way from `current` up to the root. `path` holds the handles met
before. -/
def isAbove (heap : Heap) (handle : Handle) (path : List Handle) : Option Handle → Bool
  | none => false
  | some current =>
    if current = handle then true
    else if fresh : path.contains current = false then
      match found : heap.get? current with
      | some (.node node) =>
        have := unvisited_cons_lt found fresh
        heap.isAbove handle (current :: path) node.parent
      | _ => false
    else false
termination_by heap.unvisited path

/-- The first node with an identifier among nodes and what is below them, each node before the ones
below it. `path` holds the handles of the nodes above. -/
def findNode? (heap : Heap) (id : String) (path : List Handle) (children : List Handle) :
    Option Handle :=
  children.findSome? fun child =>
    match found : heap.get? child with
    | some (.node node) =>
      if (node.fields.get? "id").bind Value.text? = some id then some child
      else if fresh : path.contains child = false then
        have := unvisited_cons_lt found fresh
        heap.findNode? id (child :: path) node.children
      else none
    | _ => none
termination_by heap.unvisited path

end Heap

namespace Node

/-- Whether the node is of a kind, or of one that extends it. -/
def isSubtype (node : Node) (kind : String) : Bool := node.ancestry.any (Name.same · kind)

/-- Sets a field, which is added if it is missing. -/
def setField (node : Node) (name : String) (value : Value) : Node :=
  { node with fields := node.fields.insert name value }

def withoutChild (node : Node) (child : Handle) : Node :=
  { node with children := node.children.filter (· != child) }

/-- The value that a new field of a type starts with. -/
def initialValue (type : String) : Value :=
  match Name.key type with
  | "string" | "str" | "uri" | "color" => .text ""
  | "integer" | "int" => .integer 0
  | "float" => .float 0.0
  | "boolean" | "bool" => .boolean false
  | _ => .invalid

/-- Lays the fields of a table over the node. Unless `adding`, only fields that it has are set. -/
def setFields (node : Node) (adding : Bool) (fields : List (String × Value)) : Node :=
  fields.foldl (fun node field =>
    if adding || node.fields.contains field.1 then node.setField field.1 field.2 else node) node

/-- Why a component cannot be a child. -/
def childError (component : Component) : String :=
  "cannot append " ++ component.kindName ++ " as a child"

/-- Makes the child's node a child of `this`: it leaves its parent and becomes the last child. -/
def adopt (heap : Heap) (this : Handle) (node : Node) (child : Handle) (parent : Option Handle) :
    Node × Heap :=
  let node := if parent = some this then node.withoutChild child else node
  let heap := match parent with
    | some other =>
      if other = this then heap else heap.modifyNode other fun node => node.withoutChild child
    | none => heap
  let heap := heap.modifyNode child fun node => { node with parent := some this }
  ({ node with children := node.children ++ [child] }, heap)

open Procedure in
/-- Appends a child, unless that would make a node its own descendant; says whether it did. -/
def append (this child : Handle) : EStateM String (Receiver Node) Value := do
  if (← heap).isAbove child [] (← own).parent then return .boolean false
  else if child = this then return .boolean false
  else match (← heap).get? child with
    | some (.node childNode) =>
      carryOut fun node heap =>
        let (node, heap) := adopt heap this node child childNode.parent
        { state := node, heap := heap, value := .boolean true }
    | some other => throw (childError other)
    | none => return .boolean false

/-- What appending a child leaves behind. -/
def appendChild (heap : Heap) (this : Handle) (node : Node) (child : Handle) :
    Except String (Effect Node) :=
  Procedure.outcome Receiver.effect (append this child) ⟨node, heap, []⟩

@[simp, grind =] theorem outcome_append (heap : Heap) (this : Handle) (node : Node)
    (child : Handle) : Procedure.outcome Receiver.effect (append this child) ⟨node, heap, []⟩ =
      node.appendChild heap this child := rfl

theorem outcome_append_warned (heap : Heap) (this : Handle) (node : Node) (child : Handle)
    (warnings : List String) :
    Procedure.outcome Receiver.effect (append this child) ⟨node, heap, warnings⟩ =
      (fun effect => { effect with warnings := warnings ++ effect.warnings }) <$>
        node.appendChild heap this child := by
  have hrefused : Except.ok (⟨node, heap, .boolean false, warnings⟩ : Effect Node) =
      (fun effect : Effect Node => { effect with warnings := warnings ++ effect.warnings }) <$>
        (.ok ⟨node, heap, .boolean false, []⟩ : Except String (Effect Node)) := by
    simp [Functor.map, Except.map]
  unfold appendChild append
  simp only [Procedure.outcome_heap, Procedure.outcome_own, Procedure.outcome_ite]
  split
  · exact hrefused
  · split
    · exact hrefused
    · cases heap.get? child with
      | none => exact hrefused
      | some component => cases component <;> rfl

/-- Removes a child; says whether it was one. -/
def removeChild (heap : Heap) (node : Node) (child : Handle) : Effect Node :=
  if node.children.contains child then
    { state := { node with children := node.children.erase child }
      heap := heap.modifyNode child fun node => { node with parent := none }
      value := .boolean true }
  else { state := node, heap := heap, value := .boolean false }

end Node

namespace NodeMethod

open Procedure in
/-- Makes a node and appends it. A kind that cannot be made gives `invalid`. -/
def create (catalog : NodeCatalog) (this : Handle) (kind : String) :
    EStateM String (Receiver Node) Value := do
  match catalog.draft kind with
  | .error _ => return .invalid
  | .ok draft =>
    warn draft.warnings
    let child ← alloc (.node draft.node)
    let _ ← Node.append this child
    return .object child

/-- What making a node and appending it leaves behind. -/
def createChild (heap : Heap) (catalog : NodeCatalog) (this : Handle) (node : Node)
    (kind : String) : Except String (Effect Node) :=
  Procedure.outcome Receiver.effect (create catalog this kind) ⟨node, heap, []⟩

@[simp, grind =] theorem outcome_create (heap : Heap) (catalog : NodeCatalog) (this : Handle)
    (node : Node) (kind : String) :
    Procedure.outcome Receiver.effect (create catalog this kind) ⟨node, heap, []⟩ =
      createChild heap catalog this node kind := rfl

theorem createChild_of_error {heap : Heap} {catalog : NodeCatalog} {this : Handle} {node : Node}
    {kind : String} {e : NodeKindError} (hdraft : catalog.draft kind = .error e) :
    createChild heap catalog this node kind = .ok ⟨node, heap, .invalid, []⟩ := by
  simp only [createChild, create, hdraft]
  rfl

theorem createChild_of_draft {heap after : Heap} {catalog : NodeCatalog} {this child : Handle}
    {node : Node} {kind : String} {draft : NodeDraft} (hdraft : catalog.draft kind = .ok draft)
    (halloc : heap.alloc (.node draft.node) = (child, after)) :
    createChild heap catalog this node kind =
      (fun effect => ⟨effect.state, effect.heap, .object child,
        draft.warnings ++ effect.warnings⟩) <$> node.appendChild after this child := by
  calc createChild heap catalog this node kind
    _ = Procedure.outcome Receiver.effect (Node.append this child >>= fun _ => pure (.object child))
          ⟨node, after, draft.warnings⟩ := by
        simp only [createChild, create, hdraft]
        rw [show child = (heap.alloc (.node draft.node)).1 by rw [halloc],
          show after = (heap.alloc (.node draft.node)).2 by rw [halloc]]
        rfl
    _ = _ := by
        rw [Procedure.outcome_replaceValue, Node.outcome_append_warned, Functor.map_map]

/-- The children from `start` on, at most `limit` of them if there is a limit. -/
def selectChildren (node : Node) (limit : Option Nat) (start : Nat) : List Handle :=
  let rest := node.children.drop start
  match limit with
  | some limit => rest.take limit
  | none => rest

open Procedure in
def perform (catalog : NodeCatalog) (this : Handle) (call : Call) :
    Procedure (Receiver Node) Value :=
  match call.method with
  | "subtype" => do
    call.expect 0
    return .text (← own).subtype
  | "issubtype" => do
    call.expect 1
    let kind ← call.text 0
    return .boolean ((← own).isSubtype kind)
  | "getfield" => do
    call.expect 1
    let name ← call.text 0
    return ((← own).fields.get? name).getD .invalid
  | "setfield" => do
    call.expect 2
    let name ← call.text 0
    if !(← own).fields.contains name then return .boolean false
    else
      let value ← call.value 1
      modifyOwn (·.setField name value)
      return .boolean true
  | "hasfield" => do
    call.expect 1
    let name ← call.text 0
    return .boolean ((← own).fields.contains name)
  | "addfield" => do
    call.expectBetween 2 3
    let name ← call.text 0
    if (← own).fields.contains name then return .boolean false
    else
      let type ← call.text 1
      modifyOwn (·.setField name (Node.initialValue type))
      return .boolean true
  | "removefield" => do
    call.expect 1
    let name ← call.text 0
    let removed := (← own).fields.contains name
    modifyOwn fun node => { node with fields := node.fields.erase name }
    return .boolean removed
  | "getfields" => do
    call.expect 0
    make (.table (.ofList (← own).fields.entries))
  | "setfields" | "addfields" => do
    call.expect 1
    let source ← call.object 0
    match (← heap).get? source with
    | some (.table fields) =>
      let adding := call.method == "addfields"
      modifyOwn (·.setFields adding fields.entries)
      return .boolean true
    | _ => throw (call.fail "argument must be an roAssociativeArray")
  | "appendchild" => do
    call.expect 1
    let child ← call.object 0
    EStateM.adaptExcept call.fail (Node.append this child)
  | "createchild" => do
    call.expect 1
    let kind ← call.text 0
    EStateM.adaptExcept call.fail (create catalog this kind)
  | "removechild" => do
    call.expect 1
    let child ← call.object 0
    carryOut fun node heap => node.removeChild heap child
  | "getchildcount" => do
    call.expect 0
    return .ofNat (← own).children.length
  | "getchild" => do
    call.expect 1
    let index ← call.index 0
    let node ← own
    return .ofHandle? (index.bind (node.children[·]?))
  | "getchildren" => do
    call.expect 2
    let limit ← call.index 0
    let start ← call.length 1
    let selected := selectChildren (← own) limit start
    make (.array (selected.map Value.object).toArray)
  | "getparent" => do
    call.expect 0
    return .ofHandle? (← own).parent
  | "findnode" => do
    call.expect 1
    let id ← call.text 0
    return .ofHandle? ((← heap).findNode? id [] (← own).children)
  | _ => throw (call.unknown "roSGNode")

/-- What a call of a method of a node leaves behind. -/
def call (heap : Heap) (catalog : NodeCatalog) (this : Handle) (node : Node) (call : Call) :
    Except MethodError (Effect Node) :=
  Procedure.outcome Receiver.effect (perform catalog this call) ⟨node, heap, []⟩

end NodeMethod

end BrightScript
