import BrightScript.Method.Call
import BrightScript.Scene.Kind

namespace BrightScript

/-- Why a component cannot be created. -/
inductive CreationError where
  | unknownKind (kind : String)
  | arity (kind expected : String) (found : Nat)
  | argumentType (kind : String) (position : Nat) (expected found : String)
  | invalid (kind reason : String)
  deriving DecidableEq, Repr

def CreationError.message : CreationError → String
  | .unknownKind kind => "Unknown component kind '" ++ kind ++ "'"
  | .arity kind expected found =>
    kind ++ " expects " ++ expected ++ " argument(s), found " ++ toString found
  | .argumentType kind position expected found =>
    kind ++ " argument " ++ toString position ++ " must be " ++ expected ++ ", found " ++ found
  | .invalid kind reason => kind ++ " could not be created: " ++ reason

/-- A new component, and the warnings that its creation gives rise to. -/
structure Creation where
  component : Component
  warnings : List String := []
  deriving Inhabited

/-- How a component is made from arguments. -/
inductive Constructor where
  /-- Without arguments, at a time. -/
  | plain (make : Nat → Component)
  /-- From one text. -/
  | text (make : String → Except String Component)
  /-- From one text or none. -/
  | optionalText (make : Option String → Except String Component)
  /-- From two texts. -/
  | textPair (make : String → String → Except String Component)
  /-- A node, from the name of its kind. -/
  | node
  /-- By rules of its own. -/
  | custom (make : List Value → Except CreationError Component)

namespace Constructor

/-- The name of the form of a constructor. -/
def formName : Constructor → String
  | .plain _ => "Plain"
  | .text _ => "Text"
  | .optionalText _ => "OptionalText"
  | .textPair _ => "TextPair"
  | .node => "Node"
  | .custom _ => "Custom"

/-- There are at least `least` and at most `most` arguments. -/
def expect (kind : String) (arguments : List Value) (least most : Nat) :
    Except CreationError Unit :=
  let found := arguments.length
  if least ≤ found && found ≤ most then .ok ()
  else .error (.arity kind (arityText least most) found)

def textArgument (kind : String) (arguments : List Value) (position : Nat) :
    Except CreationError String :=
  match arguments[position]? with
  | some (.text value) => .ok value
  | other =>
    let found := (other.map Value.typeName).getD "nothing"
    .error (.argumentType kind (position + 1) "String" found)

def makeNode (catalog : NodeCatalog) (name : String) : Except CreationError Creation :=
  match catalog.draft name with
  | .ok draft => .ok ⟨.node draft.node, draft.warnings⟩
  | .error e => .error (.invalid "roSGNode" e.message)

/-- A component that is made without warnings. -/
def wrap (kind : String) (made : Except String Component) : Except CreationError Creation :=
  match made with
  | .ok component => .ok ⟨component, []⟩
  | .error reason => .error (.invalid kind reason)

def make (kind : String) (clock : Nat) (catalog : NodeCatalog) (arguments : List Value) :
    Constructor → Except CreationError Creation
  | .plain make => do
    expect kind arguments 0 0
    .ok ⟨make clock, []⟩
  | .text make => do
    expect kind arguments 1 1
    wrap kind (make (← textArgument kind arguments 0))
  | .optionalText make => do
    expect kind arguments 0 1
    let text ← if arguments.isEmpty then .ok none else some <$> textArgument kind arguments 0
    wrap kind (make text)
  | .textPair make => do
    expect kind arguments 2 2
    let first ← textArgument kind arguments 0
    let second ← textArgument kind arguments 1
    wrap kind (make first second)
  | .node => do
    expect kind arguments 1 1
    makeNode catalog (← textArgument kind arguments 0)
  | .custom make => do .ok ⟨← make arguments, []⟩

end Constructor

/-- A kind of component. -/
structure KindEntry where
  name : String
  constructor : Constructor

/-- The kinds that can be created. -/
structure Registry where
  kinds : NameMap KindEntry := .empty
  deriving Inhabited

namespace Registry

def empty : Registry := {}

def get? (registry : Registry) (kind : String) : Option KindEntry := registry.kinds.get? kind

def contains (registry : Registry) (kind : String) : Bool := registry.kinds.contains kind

/-- Adds a kind, or replaces the one of the same name. -/
def register (registry : Registry) (name : String) (constructor : Constructor) : Registry :=
  ⟨registry.kinds.insert name ⟨name, constructor⟩⟩

def names (registry : Registry) : List String :=
  sortedNames (registry.kinds.values.map KindEntry.name)

/-- An array. A size and whether it may grow can be given, and have no effect. -/
def makeArray : List Value → Except CreationError Component
  | [] => .ok (.array #[])
  | [.integer _, .boolean _] => .ok (.array #[])
  | arguments => .error (.arity "roArray" "0 or 2" arguments.length)

def makeRegex (source flags : String) : Except String Component :=
  match Regex.ofText source flags with
  | .ok regex => .ok (.regex regex)
  | .error e => .error e.message

def builtin : Registry :=
  (empty.register "roArray" (.custom makeArray)
    |>.register "roAssociativeArray" (.plain fun _ => .table .empty)
    |>.register "roList" (.plain fun _ => .list [])
    |>.register "roTimespan" (.plain .timespan)
    |>.register "roRegex" (.textPair makeRegex)
    |>.register "roString" (.optionalText fun text => .ok (.text (text.getD "")))
    |>.register "roXMLElement" (.plain fun _ => .element {})
    |>.register "roXMLList" (.plain fun _ => .elementList [])
    |>.register "roSGNode" .node)

def create (registry : Registry) (clock : Nat) (catalog : NodeCatalog) (kind : String)
    (arguments : List Value) : Except CreationError Creation :=
  match registry.get? kind with
  | some entry => entry.constructor.make entry.name clock catalog arguments
  | none => .error (.unknownKind kind)

end Registry

end BrightScript
