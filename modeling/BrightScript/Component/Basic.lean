import BrightScript.Dictionary
import BrightScript.Json.Basic
import BrightScript.Pattern.Template
import BrightScript.SortedMap
import BrightScript.Value.Basic

namespace BrightScript

/-- A pattern with the texts that it was made from. -/
structure Regex where
  source : String
  flags : String
  pattern : Pattern
  deriving Inhabited

/-- A regular expression from its text and its flags. -/
def Regex.ofText (source flags : String) : Except PatternError Regex := do
  let settings ← Pattern.flagsOf {} flags.toList
  .ok ⟨source, flags, ← Pattern.parse settings source⟩

/-- What stands between the tags of an element. -/
inductive XmlBody where
  | empty
  | text (value : String)
  | elements (children : List Handle)
  deriving DecidableEq, Repr, Inhabited

/-- An element of a document. The case of attribute names matters. -/
structure XmlElement where
  name : String := ""
  attributes : TextMap String := .empty
  body : XmlBody := .empty
  deriving DecidableEq, Repr, Inhabited

/-- The elements in the body of an element. -/
def XmlElement.children (element : XmlElement) : List Handle :=
  match element.body with
  | .elements children => children
  | _ => []

/-- A node of the scene graph. -/
structure Node where
  subtype : String
  /-- The kinds of the node, the most special first. -/
  ancestry : List String
  fields : NameMap Value
  children : List Handle := []
  parent : Option Handle := none
  deriving DecidableEq, Repr, Inhabited

/-- A component of a kind that the host added: fields under lowercase names. -/
structure HostObject where
  kind : String
  fields : NameMap Value := .empty
  deriving DecidableEq, Repr, Inhabited

def HostObject.setField (object : HostObject) (name : String) (value : Value) : HostObject :=
  { object with fields := object.fields.insert (Name.key name) value }

/-- A component. -/
inductive Component where
  | array (items : Array Value)
  | table (entries : NameMap Value)
  | list (items : List Value)
  /-- A stopwatch that was started at a time, in nanoseconds. -/
  | timespan (start : Nat)
  | regex (data : Regex)
  | text (value : String)
  | element (data : XmlElement)
  | elementList (elements : List Handle)
  | node (data : Node)
  | host (object : HostObject)
  deriving Inhabited

namespace Component

def kindName : Component → String
  | .array _ => "roArray"
  | .table _ => "roAssociativeArray"
  | .list _ => "roList"
  | .timespan _ => "roTimespan"
  | .regex _ => "roRegex"
  | .text _ => "roString"
  | .element _ => "roXMLElement"
  | .elementList _ => "roXMLList"
  | .node _ => "roSGNode"
  | .host object => object.kind

def references : Component → List Handle
  | .array items => Value.handles items.toList
  | .table entries => Value.handles entries.values
  | .list items => Value.handles items
  | .timespan _ | .regex _ | .text _ => []
  | .element data => data.children
  | .elementList elements => elements
  | .node data => Value.handles data.fields.values ++ data.children ++ data.parent.toList
  | .host object => Value.handles object.fields.values

/-- An object document whose members are in ascending order, the last of equal names. -/
def sortedObject (members : List (String × Json)) : Json :=
  .object (SortedMap.ofList members).entries

section Document

variable {m : Type → Type} [Monad m]

/-- Shows the fields of a map, in order of insertion of their names. -/
def fieldDocumentsM {key : String → String} (nested : Value → m Json)
    (fields : Dictionary key Value) : m (List (String × Json)) :=
  fields.entries.mapM fun field => return (field.1, ← nested field.2)

/-- Shows components, in order. -/
def componentDocumentsM (nested : Value → m Json) (components : List Handle) : m (List Json) :=
  components.mapM fun handle => nested (.object handle)

def bodyDocumentM (nested : Value → m Json) : XmlBody → m Json
  | .empty => return .null
  | .text value => return .text value
  | .elements children => return .array (← componentDocumentsM nested children)

/-- Shows a component at a time; `nested` shows the values in it, one after the other. -/
def documentM (clock : Nat) (nested : Value → m Json) : Component → m Json
  | .array items => return .array (← items.toList.mapM nested)
  | .table entries => return sortedObject (← fieldDocumentsM nested entries)
  | .list items => return .array (← items.mapM nested)
  | .timespan start =>
    return .object [("totalMilliseconds", .integer ((clock - start) / 1000000 : Nat))]
  | .regex data => return .object [("pattern", .text data.source)]
  | .text value => return .text value
  | .element data => do
    let body ← bodyDocumentM nested data.body
    return .object [
      ("attributes", sortedObject (data.attributes.entries.map fun (name, value) =>
        (name, .text value))),
      ("body", body),
      ("name", .text data.name)]
  | .elementList elements => return .array (← componentDocumentsM nested elements)
  | .node data => do
    let fields ← fieldDocumentsM nested data.fields
    let children ← componentDocumentsM nested data.children
    return .object [
      ("children", .array children),
      ("fields", sortedObject fields),
      ("subtype", .text data.subtype)]
  | .host object =>
    return sortedObject (("kind", .text object.kind) :: (← fieldDocumentsM nested object.fields))

end Document

end Component

end BrightScript
