import Mathlib
import BrightScript.Method.Call
import BrightScript.Proofs.Dictionary
import BrightScript.Scene.Kind

namespace BrightScript

namespace Value

/-- The value with its handle renamed. -/
def rename (f : Handle → Handle) : Value → Value
  | .object handle => .object (f handle)
  | value => value

@[simp] theorem rename_invalid (f : Handle → Handle) : rename f .invalid = .invalid := rfl
@[simp] theorem rename_boolean (f : Handle → Handle) (value : Bool) :
    rename f (.boolean value) = .boolean value := rfl
@[simp] theorem rename_integer (f : Handle → Handle) (value : Int64) :
    rename f (.integer value) = .integer value := rfl
@[simp] theorem rename_float (f : Handle → Handle) (value : Float) :
    rename f (.float value) = .float value := rfl
@[simp] theorem rename_text (f : Handle → Handle) (value : String) :
    rename f (.text value) = .text value := rfl
@[simp] theorem rename_object (f : Handle → Handle) (handle : Handle) :
    rename f (.object handle) = .object (f handle) := rfl
@[simp] theorem rename_ofNat (f : Handle → Handle) (number : Nat) :
    rename f (.ofNat number) = .ofNat number := rfl

@[simp] theorem rename_ofHandle? (f : Handle → Handle) (handle : Option Handle) :
    rename f (.ofHandle? handle) = .ofHandle? (handle.map f) := by
  cases handle <;> rfl

@[simp] theorem typeName_rename (f : Handle → Handle) (value : Value) :
    (value.rename f).typeName = value.typeName := by
  cases value <;> rfl

@[simp] theorem text?_rename (f : Handle → Handle) (value : Value) :
    (value.rename f).text? = value.text? := by
  cases value <;> rfl

@[simp] theorem integer?_rename (f : Handle → Handle) (value : Value) :
    (value.rename f).integer? = value.integer? := by
  cases value <;> rfl

@[simp] theorem number?_rename (f : Handle → Handle) (value : Value) :
    (value.rename f).number? = value.number? := by
  cases value <;> rfl

@[simp] theorem display_rename (f : Handle → Handle) (value : Value) :
    (value.rename f).display = value.display := by
  cases value <;> rfl

theorem getD_map_rename (f : Handle → Handle) (value : Option Value) :
    (value.map (rename f)).getD .invalid = (value.getD .invalid).rename f := by
  cases value <;> rfl

theorem rename_eq_self {f : Handle → Handle} {value : Value} (hplain : value.object? = none) :
    value.rename f = value := by
  cases value with
  | object handle => cases hplain
  | _ => rfl

theorem mem_handles {handle : Handle} {values : List Value} :
    handle ∈ handles values ↔ .object handle ∈ values := by
  rw [handles, List.mem_filterMap]
  constructor
  · rintro ⟨value, hvalue, hhandle⟩
    cases value with
    | object other =>
        cases hhandle
        exact hvalue
    | _ => cases hhandle
  · exact fun hvalue => ⟨_, hvalue, rfl⟩

theorem rename_congr {f g : Handle → Handle} {value : Value}
    (hagree : ∀ handle, value.object? = some handle → f handle = g handle) :
    value.rename f = value.rename g := by
  cases value with
  | object handle => rw [rename_object, rename_object, hagree handle rfl]
  | _ => rfl

@[simp] theorem rename_id : rename id = id := by
  funext value
  cases value <;> rfl

theorem map_rename_congr {f g : Handle → Handle} {values : List Value}
    (hagree : ∀ handle ∈ handles values, f handle = g handle) :
    values.map (rename f) = values.map (rename g) := by
  refine List.map_congr_left fun value hvalue => rename_congr fun handle hhandle => ?_
  exact hagree handle (List.mem_filterMap.mpr ⟨value, hvalue, hhandle⟩)

end Value

theorem contains_map_perm (π : Equiv.Perm Handle) (handles : List Handle) (handle : Handle) :
    (handles.map π).contains (π handle) = handles.contains handle := by
  rw [Bool.eq_iff_iff, List.contains_iff_mem, List.contains_iff_mem,
    List.mem_map_of_injective π.injective]

namespace Dictionary

variable {key : String → String} {α β : Type}

/-- The map with each value changed. -/
def mapValues (f : α → β) (map : Dictionary key α) : Dictionary key β :=
  ⟨map.entries.map fun entry => (entry.1, f entry.2)⟩

@[simp] theorem entries_mapValues (f : α → β) (map : Dictionary key α) :
    (map.mapValues f).entries = map.entries.map fun entry => (entry.1, f entry.2) := rfl

theorem put_map (f : α → β) (name : String) (value : α) (entries : List (String × α)) :
    put key name (f value) (entries.map fun entry => (entry.1, f entry.2)) =
      (put key name value entries).map fun entry => (entry.1, f entry.2) := by
  induction entries with
  | nil => rfl
  | cons entry rest ih =>
      obtain ⟨spelling, old⟩ := entry
      simp only [List.map_cons, put]
      split
      · rfl
      · rw [ih, List.map_cons]

@[simp] theorem mapValues_insert (f : α → β) (map : Dictionary key α) (name : String) (value : α) :
    (map.mapValues f).insert name (f value) = (map.insert name value).mapValues f :=
  congrArg Dictionary.mk (put_map f name value map.entries)

@[simp] theorem get?_mapValues (f : α → β) (map : Dictionary key α) (name : String) :
    (map.mapValues f).get? name = (map.get? name).map f := by
  unfold get? mapValues
  rw [List.find?_map]
  simp [Function.comp_def]

@[simp] theorem contains_mapValues (f : α → β) (map : Dictionary key α) (name : String) :
    (map.mapValues f).contains name = map.contains name := by
  rw [contains_eq_isSome_get?, contains_eq_isSome_get?, get?_mapValues, Option.isSome_map]

@[simp] theorem mapValues_erase (f : α → β) (map : Dictionary key α) (name : String) :
    (map.mapValues f).erase name = (map.erase name).mapValues f := by
  unfold erase mapValues
  rw [List.filter_map]
  rfl

@[simp] theorem size_mapValues (f : α → β) (map : Dictionary key α) :
    (map.mapValues f).size = map.size := List.length_map _

@[simp] theorem isEmpty_mapValues (f : α → β) (map : Dictionary key α) :
    (map.mapValues f).isEmpty = map.isEmpty := List.isEmpty_map

@[simp] theorem names_mapValues (f : α → β) (map : Dictionary key α) :
    (map.mapValues f).names = map.names := by
  simp [names]

@[simp] theorem values_mapValues (f : α → β) (map : Dictionary key α) :
    (map.mapValues f).values = map.values.map f := by
  simp [values]

theorem insertMany_mapValues (f : α → β) (map : Dictionary key α) (entries : List (String × α)) :
    (map.mapValues f).insertMany (entries.map fun entry => (entry.1, f entry.2)) =
      (map.insertMany entries).mapValues f := by
  unfold insertMany
  induction entries generalizing map with
  | nil => rfl
  | cons entry entries ih =>
      rw [List.map_cons, List.foldl_cons, List.foldl_cons, mapValues_insert, ih]

theorem ofList_map (f : α → β) (entries : List (String × α)) :
    (ofList (entries.map fun entry => (entry.1, f entry.2)) : Dictionary key β) =
      (ofList entries).mapValues f :=
  insertMany_mapValues f empty entries

theorem mapValues_congr {f g : α → β} {map : Dictionary key α}
    (hagree : ∀ value ∈ map.values, f value = g value) : map.mapValues f = map.mapValues g := by
  refine congrArg Dictionary.mk (List.map_congr_left fun entry hentry => ?_)
  rw [hagree entry.2 (List.mem_map_of_mem hentry)]

@[simp] theorem mapValues_id (map : Dictionary key α) : map.mapValues id = map := by
  simp [mapValues]

end Dictionary

/-- The body with its handles renamed. -/
def XmlBody.rename (f : Handle → Handle) : XmlBody → XmlBody
  | .elements children => .elements (children.map f)
  | body => body

/-- The element with the handles in its body renamed. -/
def XmlElement.rename (f : Handle → Handle) (element : XmlElement) : XmlElement :=
  { element with body := element.body.rename f }

/-- The node with its handles renamed. -/
def Node.rename (f : Handle → Handle) (node : Node) : Node :=
  { node with
    fields := node.fields.mapValues (Value.rename f)
    children := node.children.map f
    parent := node.parent.map f }

/-- The object with its handles renamed. -/
def HostObject.rename (f : Handle → Handle) (object : HostObject) : HostObject :=
  { object with fields := object.fields.mapValues (Value.rename f) }

@[simp] theorem XmlElement.children_rename (f : Handle → Handle) (element : XmlElement) :
    (element.rename f).children = element.children.map f := by
  unfold XmlElement.children XmlElement.rename XmlBody.rename
  cases element.body <;> rfl

namespace Component

/-- The component with its handles renamed. -/
def rename (f : Handle → Handle) : Component → Component
  | .array items => .array (items.map (Value.rename f))
  | .table entries => .table (entries.mapValues (Value.rename f))
  | .list items => .list (items.map (Value.rename f))
  | .timespan start => .timespan start
  | .regex data => .regex data
  | .text value => .text value
  | .element data => .element (data.rename f)
  | .elementList elements => .elementList (elements.map f)
  | .node data => .node (data.rename f)
  | .host object => .host (object.rename f)

@[simp] theorem kindName_rename (f : Handle → Handle) (component : Component) :
    (component.rename f).kindName = component.kindName := by
  cases component <;> rfl

@[simp] theorem rename_id (component : Component) : component.rename id = component := by
  cases component with
  | element data =>
      obtain ⟨name, attributes, body⟩ := data
      cases body <;> simp [rename, XmlElement.rename, XmlBody.rename]
  | _ => simp [rename, Node.rename, HostObject.rename]

theorem rename_congr {f g : Handle → Handle} {component : Component}
    (hagree : ∀ handle ∈ component.references, f handle = g handle) :
    component.rename f = component.rename g := by
  have hfields : ∀ {fields : NameMap Value},
      (∀ handle ∈ Value.handles fields.values, f handle = g handle) →
      fields.mapValues (Value.rename f) = fields.mapValues (Value.rename g) := by
    intro fields hagree
    refine Dictionary.mapValues_congr fun value hvalue =>
      Value.rename_congr fun handle hhandle => ?_
    exact hagree handle (List.mem_filterMap.mpr ⟨value, hvalue, hhandle⟩)
  cases component with
  | array items =>
      refine congrArg Component.array (Array.toList_inj.mp ?_)
      rw [Array.toList_map, Array.toList_map, Value.map_rename_congr hagree]
  | table entries => exact congrArg Component.table (hfields hagree)
  | list items => exact congrArg Component.list (Value.map_rename_congr hagree)
  | timespan start => rfl
  | regex data => rfl
  | text value => rfl
  | element data =>
      obtain ⟨name, attributes, body⟩ := data
      cases body with
      | elements children =>
          have hchildren : children.map f = children.map g := List.map_congr_left hagree
          simp only [rename, XmlElement.rename, XmlBody.rename, hchildren]
      | _ => rfl
  | elementList elements => exact congrArg Component.elementList (List.map_congr_left hagree)
  | node data =>
      simp only [references, List.mem_append] at hagree
      have hfields := hfields fun handle hhandle => hagree handle (.inl (.inl hhandle))
      have hchildren : data.children.map f = data.children.map g :=
        List.map_congr_left fun handle hhandle => hagree handle (.inl (.inr hhandle))
      have hparent : data.parent.map f = data.parent.map g :=
        Option.map_congr fun handle hhandle => hagree handle (.inr (Option.mem_toList.mpr hhandle))
      simp only [rename, Node.rename, hfields, hchildren, hparent]
  | host object =>
      simp only [rename, HostObject.rename, hfields hagree]

theorem rename_eq_self {f : Handle → Handle} {component : Component}
    (hplain : component.references = []) : component.rename f = component := by
  have hsame : component.rename f = component.rename id := rename_congr (by simp [hplain])
  rw [hsame, rename_id]

end Component

/-- The entries with the handles among their values renamed. -/
abbrev renameFields (f : Handle → Handle) (fields : List (String × Value)) :
    List (String × Value) :=
  fields.map fun field => (field.1, field.2.rename f)

/-- The declaration with the handles in its fields renamed. -/
def NodeDefinition.rename (f : Handle → Handle) (definition : NodeDefinition) : NodeDefinition :=
  { definition with fields := renameFields f definition.fields }

/-- The new node with its handles renamed. -/
def NodeDraft.rename (f : Handle → Handle) (draft : NodeDraft) : NodeDraft :=
  { draft with node := draft.node.rename f }

namespace NodeCatalog

/-- The catalog with the handles in the fields of its kinds renamed. -/
def rename (f : Handle → Handle) (catalog : NodeCatalog) : NodeCatalog :=
  ⟨catalog.definitions.mapValues (NodeDefinition.rename f)⟩

@[simp] theorem get?_rename (f : Handle → Handle) (catalog : NodeCatalog) (name : String) :
    (catalog.rename f).get? name = (catalog.get? name).map (NodeDefinition.rename f) :=
  Dictionary.get?_mapValues _ _ _

theorem declare_rename (f : Handle → Handle) (catalog : NodeCatalog)
    (definition : NodeDefinition) :
    (catalog.rename f).declare (definition.rename f) = (catalog.declare definition).rename f :=
  congrArg NodeCatalog.mk (Dictionary.mapValues_insert _ _ _ _)

theorem mem_references {catalog : NodeCatalog} {handle : Handle} :
    handle ∈ catalog.references ↔
      ∃ definition ∈ catalog.definitions.values,
        handle ∈ Value.handles (definition.fields.map Prod.snd) :=
  List.mem_flatMap

theorem rename_congr {f g : Handle → Handle} {catalog : NodeCatalog}
    (hagree : ∀ handle ∈ catalog.references, f handle = g handle) :
    catalog.rename f = catalog.rename g := by
  refine congrArg NodeCatalog.mk (Dictionary.mapValues_congr fun definition hdefinition => ?_)
  refine congrArg (NodeDefinition.mk definition.name definition.base) ?_
  refine List.map_congr_left fun field hfield => ?_
  refine congrArg (Prod.mk field.1) (Value.rename_congr fun handle hhandle => ?_)
  refine hagree handle (mem_references.mpr ⟨definition, hdefinition, ?_⟩)
  exact List.mem_filterMap.mpr ⟨field.2, List.mem_map_of_mem hfield, hhandle⟩

@[simp] theorem rename_id (catalog : NodeCatalog) : catalog.rename id = catalog := by
  have hsame : NodeDefinition.rename id = id := by
    funext definition
    simp [NodeDefinition.rename, renameFields]
  rw [rename, hsame, Dictionary.mapValues_id]

theorem baseWarnings_rename (f : Handle → Handle) (kind : String)
    (declared : Option NodeDefinition) :
    baseWarnings kind (declared.map (NodeDefinition.rename f)) = baseWarnings kind declared := by
  cases declared <;> rfl

end NodeCatalog

end BrightScript
