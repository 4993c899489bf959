import BrightScript.Method.Procedure

namespace BrightScript

namespace Xml

/-- How deeply elements may be nested in a written document. -/
def maxDepth : Nat := 256

/-- Why a document cannot be written. -/
inductive WriteError where
  | containsItself
  | tooDeep
  deriving DecidableEq, Repr

def WriteError.message : WriteError → String
  | .containsItself => "element contains itself"
  | .tooDeep => "elements are nested deeper than " ++ toString maxDepth

/-- A character in a text or an attribute. -/
def escapeChar (c : Char) : List Char :=
  match c with
  | '&' => "&amp;".toList
  | '<' => "&lt;".toList
  | '>' => "&gt;".toList
  | '"' => "&quot;".toList
  | c => [c]

/-- A text in which no character is taken for markup. -/
def escape (text : String) : String := String.ofList (text.toList.flatMap escapeChar)

/-- The attributes of an element, each behind a space. -/
def attributes (element : XmlElement) : String :=
  String.join (element.attributes.entries.map fun (name, value) =>
    " " ++ name ++ "=\"" ++ escape value ++ "\"")

def closing (element : XmlElement) : String := "</" ++ element.name ++ ">"

/-- The elements that are being written, where `limit` is at least the number of levels left. -/
abbrev Opened (limit : Nat) : Type :=
  { handles : List Handle // maxDepth < handles.length + limit }

namespace Opened

/-- Only the element of a handle is being written. -/
def only (handle : Handle) : Opened maxDepth := ⟨[handle], Nat.lt_add_of_pos_left Nat.one_pos⟩

def enter {limit : Nat} (opened : Opened (limit + 1)) (child : Handle) : Opened limit :=
  ⟨child :: opened.1, by rw [List.length_cons, Nat.succ_add_eq_add_succ]; exact opened.2⟩

def leave {limit : Nat} (opened : Opened limit) (child : Handle) : Opened (limit + 1) :=
  ⟨opened.1.erase child, by
    have room := opened.2
    rw [List.length_erase]
    split <;> omega⟩

end Opened

/-- Writes a child of an element, where `inner` writes the child's own element. -/
def writeChild (heap : Heap) {limit : Nat}
    (inner : XmlElement → StateT (Opened limit) (Except WriteError) String) (child : Handle) :
    StateT (Opened (limit + 1)) (Except WriteError) String := fun opened =>
  if opened.1.contains child then throw .containsItself
  else match heap.get? child with
    | some (.element element) => do
      let (written, within) ← inner element (opened.enter child)
      return (written, within.leave child)
    | _ => return ("", opened)

/-- Writes an element. The elements being written are kept in one set for the whole walk. -/
def write (heap : Heap) : (limit : Nat) → XmlElement →
    StateT (Opened limit) (Except WriteError) String
  | 0, _ => throw .tooDeep
  | limit + 1, element => do
    -- the element itself is among those being written
    if maxDepth < (← get).1.length then throw .tooDeep
    else
      let start := "<" ++ element.name ++ attributes element
      match element.body with
      | .empty => return start ++ "/>"
      | .text value => return start ++ ">" ++ escape value ++ closing element
      | .elements children =>
        let inner ← children.mapM (writeChild heap (write heap limit))
        return start ++ ">" ++ String.join inner ++ closing element

/-- The line that opens a document. -/
def header : String := "<?xml version=\"1.0\" encoding=\"UTF-8\"?>\n"

/-- Writes the element of a handle. -/
def document (heap : Heap) (this : Handle) (element : XmlElement) : Except WriteError String :=
  (write heap maxDepth element).run' (.only this)

/-- The handles whose elements have a name. -/
def named (heap : Heap) (name : String) (ignoreCase : Bool) (elements : List Handle) :
    List Handle :=
  elements.filter fun handle =>
    match heap.get? handle with
    | some (.element element) =>
      if ignoreCase then Name.same element.name name else element.name == name
    | _ => false

end Xml

namespace ElementMethod

/-- Adds an element to the body; a body of another form is replaced. -/
def addChild (element : XmlElement) (child : Handle) : XmlElement :=
  { element with body := .elements (element.children ++ [child]) }

/-- Makes an element and adds it to the body. -/
def addElement (heap : Heap) (element child : XmlElement) : Effect XmlElement :=
  let (handle, heap) := heap.alloc (.element child)
  { state := addChild element handle, heap := heap, value := .object handle }

/-- The body that a value stands for. -/
def bodyOf? (heap : Heap) : Value → Option XmlBody
  | .text value => some (.text value)
  | .invalid => some .empty
  | .object handle =>
    match heap.get? handle with
    | some (.elementList elements) => some (.elements elements)
    | _ => none
  | _ => none

open Procedure in
def perform (this : Handle) (call : Call) : Procedure (Receiver XmlElement) Value :=
  match call.method with
  | "getname" => do
    call.expect 0
    return .text (← own).name
  | "setname" => do
    call.expect 1
    let name ← call.text 0
    modifyOwn fun element => { element with name := name }
    return .invalid
  | "addattribute" => do
    call.expect 2
    let name ← call.text 0
    let value ← call.text 1
    modifyOwn fun element =>
      { element with attributes := element.attributes.insert name value }
    return .invalid
  | "hasattribute" => do
    call.expect 1
    let name ← call.text 0
    return .boolean ((← own).attributes.contains name)
  | "getattributes" => do
    call.expect 0
    let attributes := (← own).attributes.entries.map fun (name, value) => (name, Value.text value)
    make (.table (.ofList attributes))
  | "setbody" => do
    call.expect 1
    let value ← call.value 0
    match bodyOf? (← heap) value with
    | some body =>
      modifyOwn fun element => { element with body := body }
      return .invalid
    | none => throw (call.fail "body must be a String or roXMLList")
  | "getbody" => do
    call.expect 0
    match (← own).body with
    | .empty => return .invalid
    | .text value => return .text value
    | .elements children => make (.elementList children)
  | "gettext" => do
    call.expect 0
    match (← own).body with
    | .text value => return .text value
    | _ => return .text ""
  | "addelement" => do
    call.expect 1
    let name ← call.text 0
    carryOut fun element heap => addElement heap element { name := name }
  | "addelementwithbody" => do
    call.expect 2
    let name ← call.text 0
    let body ← call.text 1
    carryOut fun element heap => addElement heap element { name := name, body := .text body }
  | "getchildelements" => do
    call.expect 0
    match (← own).body with
    | .elements children => make (.elementList children)
    | _ => return .invalid
  | "getnamedelements" | "getnamedelementsci" => do
    call.expect 1
    let name ← call.text 0
    let ignoreCase := call.method == "getnamedelementsci"
    make (.elementList (Xml.named (← heap) name ignoreCase (← own).children))
  | "genxml" => do
    call.expectBetween 0 1
    let withHeader ← if call.arguments.isEmpty then pure true else call.boolean 0
    match Xml.document (← heap) this (← own) with
    | .ok written => return .text (if withHeader then Xml.header ++ written else written)
    | .error e => throw (call.fail e.message)
  | _ => throw (call.unknown "roXMLElement")

/-- What a call of a method of an element leaves behind. -/
def call (heap : Heap) (this : Handle) (element : XmlElement) (call : Call) :
    Except MethodError (Effect XmlElement) :=
  Procedure.outcome Receiver.effect (perform this call) ⟨element, heap, []⟩

end ElementMethod

namespace ElementListMethod

def grandchildren (heap : Heap) (elements : List Handle) : List Handle :=
  elements.flatMap fun handle =>
    match heap.get? handle with
    | some (.element element) => element.children
    | _ => []

open Procedure in
def perform (call : Call) : Procedure (Receiver (List Handle)) Value :=
  match call.method with
  | "count" => do
    call.expect 0
    return .ofNat (← own).length
  | "isempty" => do
    call.expect 0
    return .boolean (← own).isEmpty
  | "push" | "addtail" => do
    call.expect 1
    let handle ← call.object 0
    match (← heap).get? handle with
    | some (.element _) =>
      modifyOwn (· ++ [handle])
      return .invalid
    | _ => throw (call.fail "only roXMLElement can be added")
  | "gethead" => do
    call.expect 0
    return .ofHandle? (← own).head?
  | "gettail" => do
    call.expect 0
    return .ofHandle? (← own).getLast?
  | "getentry" => do
    call.expect 1
    let index ← call.index 0
    let elements ← own
    return .ofHandle? (index.bind (elements[·]?))
  | "getnamedelements" | "getnamedelementsci" => do
    call.expect 1
    let name ← call.text 0
    let ignoreCase := call.method == "getnamedelementsci"
    let heap ← heap
    make (.elementList (Xml.named heap name ignoreCase (grandchildren heap (← own))))
  | _ => throw (call.unknown "roXMLList")

/-- What a call of a method of a list of elements leaves behind. -/
def call (heap : Heap) (elements : List Handle) (call : Call) :
    Except MethodError (Effect (List Handle)) :=
  Procedure.outcome Receiver.effect (perform call) ⟨elements, heap, []⟩

end ElementListMethod

end BrightScript
