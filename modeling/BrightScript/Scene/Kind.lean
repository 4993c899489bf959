import BrightScript.Component.Basic

namespace BrightScript

/-- A kind of node that a program declares. -/
structure NodeDefinition where
  name : String
  base : Option String := none
  fields : List (String × Value) := []
  deriving DecidableEq, Repr, Inhabited

/-- The kinds that a run has declared. -/
structure NodeCatalog where
  definitions : NameMap NodeDefinition := .empty
  deriving DecidableEq, Repr, Inhabited

namespace NodeCatalog

def empty : NodeCatalog := {}

def get? (catalog : NodeCatalog) (name : String) : Option NodeDefinition :=
  catalog.definitions.get? name

def contains (catalog : NodeCatalog) (name : String) : Bool := catalog.definitions.contains name

/-- Adds a declaration, or replaces the one of the same name. -/
def declare (catalog : NodeCatalog) (definition : NodeDefinition) : NodeCatalog :=
  ⟨catalog.definitions.insert definition.name definition⟩

def size (catalog : NodeCatalog) : Nat := catalog.definitions.size

def names (catalog : NodeCatalog) : List String :=
  sortedNames (catalog.definitions.values.map NodeDefinition.name)

/-- The handles among the values of declared fields. -/
def references (catalog : NodeCatalog) : List Handle :=
  catalog.definitions.values.flatMap fun definition =>
    Value.handles (definition.fields.map Prod.snd)

end NodeCatalog

namespace NodeKind

/-- The kinds that need no declaration, with their own fields. -/
def builtins : List NodeDefinition := [
  ⟨"Node", none, [("id", .text ""), ("focusable", .boolean false), ("focusedChild", .invalid)]⟩,
  ⟨"Group", some "Node", [("visible", .boolean true), ("opacity", .float 1.0),
    ("translation", .invalid), ("rotation", .float 0.0)]⟩,
  ⟨"LayoutGroup", some "Group", [("layoutDirection", .text "vert"),
    ("horizAlignment", .text "left"), ("vertAlignment", .text "top")]⟩,
  ⟨"Rectangle", some "Group", [("width", .float 0.0), ("height", .float 0.0),
    ("color", .text "0xFFFFFFFF")]⟩,
  ⟨"Label", some "Group", [("text", .text ""), ("color", .text "0xDDDDDDFF"),
    ("width", .float 0.0), ("height", .float 0.0), ("horizAlign", .text "left"),
    ("vertAlign", .text "top"), ("wrap", .boolean false), ("numLines", .integer 0)]⟩,
  ⟨"Poster", some "Group", [("uri", .text ""), ("width", .float 0.0), ("height", .float 0.0),
    ("loadStatus", .text "noScale")]⟩,
  ⟨"Scene", some "Group", [("backgroundColor", .text "0x000000FF"), ("backgroundUri", .text ""),
    ("backExitsScene", .boolean true)]⟩,
  ⟨"ContentNode", some "Node", [("title", .text ""), ("description", .text ""), ("url", .text ""),
    ("streamFormat", .text "")]⟩,
  ⟨"Timer", some "Node", [("control", .text "none"), ("repeat", .boolean false),
    ("duration", .float 0.0), ("fire", .invalid)]⟩,
  ⟨"Font", some "Node", [("uri", .text ""), ("size", .integer 1)]⟩]

def builtin? (name : String) : Option NodeDefinition :=
  builtins.find? fun kind => Name.same kind.name name

def isBuiltin (name : String) : Bool := (builtin? name).isSome

/-- How many kinds one kind may extend, one after the other. -/
def maxBases : Nat := 32

end NodeKind

/-- Why no node of a kind can be made. -/
inductive NodeKindError where
  | endlessChain (name : String)
  | unknownKind (name : String)
  deriving DecidableEq, Repr

def NodeKindError.message : NodeKindError → String
  | .endlessChain name => "extends chain of '" ++ name ++ "' is cyclic or too deep"
  | .unknownKind name => "unknown node type '" ++ name ++ "'"

/-- A new node, and the warnings that its kind gives rise to. -/
structure NodeDraft where
  node : Node
  warnings : List String := []
  deriving DecidableEq, Repr, Inhabited

namespace NodeDraft

/-- Makes the node one of a more special kind, whose fields are laid over the ones it has. -/
def specialize (draft : NodeDraft) (subtype : String) (fields : List (String × Value)) :
    NodeDraft :=
  { draft with node := { draft.node with
      subtype := subtype
      ancestry := subtype :: draft.node.ancestry
      fields := draft.node.fields.insertMany fields } }

/-- Lays the fields of a declaration over those of the node. -/
def overlay (draft : NodeDraft) (fields : List (String × Value)) : NodeDraft :=
  { draft with node := { draft.node with fields := draft.node.fields.insertMany fields } }

def warn (draft : NodeDraft) (warnings : List String) : NodeDraft :=
  { draft with warnings := draft.warnings ++ warnings }

/-- The node without kind, fields and relatives. -/
def blank : NodeDraft := ⟨{ subtype := "", ancestry := [], fields := .empty }, []⟩

end NodeDraft

namespace NodeCatalog

/-- The warning about a declaration that gives a built-in kind another base. -/
def baseWarnings (kind : String) (declared : Option NodeDefinition) : List String :=
  match declared.bind NodeDefinition.base with
  | some base => ["Declaration of built-in node kind '" ++ kind ++
      "' cannot change its base to '" ++ base ++ "'"]
  | none => []

/-- Makes a node by following a chain of at most `limit` kinds. A declaration of a built-in kind
adds fields to it but keeps its base; other kinds extend `Node` if nothing else is said. -/
def draftWithin (catalog : NodeCatalog) : Nat → String → Except NodeKindError NodeDraft
  | 0, name => .error (.endlessChain name)
  | limit + 1, name => do
    let declared := catalog.get? name
    match NodeKind.builtin? name, declared with
    | some kind, _ =>
      let base ← match kind.base with
        | some base => catalog.draftWithin limit base
        | none => .ok .blank
      -- a declaration under the name of a built-in kind adds fields, but its base is not followed
      let draft := (base.warn (baseWarnings kind.name declared)).specialize kind.name kind.fields
      .ok (draft.overlay ((declared.map NodeDefinition.fields).getD []))
    | none, some definition =>
      let base ← catalog.draftWithin limit (definition.base.getD "Node")
      .ok (base.specialize definition.name definition.fields)
    | none, none => .error (.unknownKind name)

def draft (catalog : NodeCatalog) (name : String) : Except NodeKindError NodeDraft :=
  catalog.draftWithin (NodeKind.maxBases + 1) name

end NodeCatalog

end BrightScript
