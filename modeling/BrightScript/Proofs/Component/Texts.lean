import BrightScript.Method.Call
import BrightScript.Proofs.Dictionary
import BrightScript.Proofs.Text.Size

namespace BrightScript

def Value.texts (values : List Value) : List String := values.filterMap Value.text?

/-- The names of a map, and the texts among its values. -/
def Dictionary.texts {key : String → String} (map : Dictionary key Value) : List String :=
  map.names ++ Value.texts map.values

def XmlBody.texts : XmlBody → List String
  | .text value => [value]
  | _ => []

/-- The texts that a component holds, the names of its entries, attributes and fields among them. -/
def Component.texts : Component → List String
  | .array items => Value.texts items.toList
  | .table entries => entries.texts
  | .list items => Value.texts items
  | .timespan _ | .regex _ | .elementList _ => []
  | .text value => [value]
  | .element data =>
    data.name :: data.attributes.names ++ data.attributes.values ++ data.body.texts
  | .node data => data.subtype :: data.fields.texts
  | .host object => object.kind :: object.fields.texts

/-- A value is no text that is too long. -/
def Value.Fits : Value → Prop
  | .text value => Text.Fits value
  | _ => True

instance : DecidablePred Value.Fits
  | .text value => inferInstanceAs (Decidable (Text.Fits value))
  | .invalid | .boolean _ | .integer _ | .float _ | .object _ => inferInstanceAs (Decidable True)

/-- None of the texts of a map is too long. -/
def Dictionary.Fits {key : String → String} (map : Dictionary key Value) : Prop :=
  ∀ entry ∈ map.entries, Text.Fits entry.1 ∧ entry.2.Fits

/-- None of the texts of a component is too long. -/
def Component.Fits (component : Component) : Prop := ∀ text ∈ component.texts, Text.Fits text

namespace Value

theorem mem_texts {text : String} {values : List Value} :
    text ∈ texts values ↔ .text text ∈ values := by
  rw [texts, List.mem_filterMap]
  constructor
  · rintro ⟨value, hvalue, htext⟩
    cases value with
    | text _ => exact Option.some.inj htext ▸ hvalue
    | _ => cases htext
  · exact fun hvalue => ⟨_, hvalue, rfl⟩

theorem forall_texts_iff {values : List Value} :
    (∀ text ∈ texts values, Text.Fits text) ↔ ∀ value ∈ values, value.Fits := by
  constructor
  · intro htexts value hvalue
    cases value with
    | text text => exact htexts text (mem_texts.mpr hvalue)
    | _ => exact trivial
  · intro hvalues text htext
    exact hvalues (.text text) (mem_texts.mp htext)

theorem fits_getD {value : Option Value} (hvalue : ∀ given ∈ value, given.Fits) :
    (value.getD .invalid).Fits := by
  cases value with
  | none => exact trivial
  | some given => exact hvalue given rfl

theorem fits_ofHandle? (handle : Option Handle) : (ofHandle? handle).Fits := by
  cases handle <;> exact trivial

end Value

namespace Dictionary

variable {key : String → String} {map : Dictionary key Value}

theorem forall_texts_iff : (∀ text ∈ map.texts, Text.Fits text) ↔ map.Fits := by
  rw [texts, List.forall_mem_append, Value.forall_texts_iff, names, values, List.forall_mem_map,
    List.forall_mem_map]
  exact ⟨fun h entry hentry => ⟨h.1 entry hentry, h.2 entry hentry⟩,
    fun h => ⟨fun entry hentry => (h entry hentry).1, fun entry hentry => (h entry hentry).2⟩⟩

theorem fits_empty : (empty : Dictionary key Value).Fits := List.forall_mem_nil _

theorem Fits.insert (hmap : map.Fits) {name : String} {value : Value} (hname : Text.Fits name)
    (hvalue : value.Fits) : (map.insert name value).Fits :=
  forall_mem_put (p := fun entry : String × Value => Text.Fits entry.1 ∧ entry.2.Fits) hmap
    ⟨hname, hvalue⟩ fun _ _ hentry => ⟨hentry.1, hvalue⟩

theorem Fits.erase (hmap : map.Fits) (name : String) : (map.erase name).Fits :=
  fun entry hentry => hmap entry (List.mem_of_mem_filter hentry)

theorem Fits.insertMany (hmap : map.Fits) {entries : List (String × Value)}
    (hentries : ∀ entry ∈ entries, Text.Fits entry.1 ∧ entry.2.Fits) :
    (map.insertMany entries).Fits := by
  induction entries generalizing map with
  | nil => exact hmap
  | cons first rest ih =>
      obtain ⟨hfirst, hrest⟩ := List.forall_mem_cons.mp hentries
      exact ih (hmap.insert hfirst.1 hfirst.2) hrest

theorem fits_ofList {entries : List (String × Value)}
    (hentries : ∀ entry ∈ entries, Text.Fits entry.1 ∧ entry.2.Fits) :
    (ofList entries : Dictionary key Value).Fits :=
  fits_empty.insertMany hentries

theorem Fits.get? (hmap : map.Fits) (name : String) : ((map.get? name).getD .invalid).Fits := by
  refine Value.fits_getD fun value hvalue => ?_
  obtain ⟨spelling, -, hentry⟩ := exists_mem_of_get? hvalue
  exact (hmap _ hentry).2

end Dictionary

def Node.Fits (node : Node) : Prop := Text.Fits node.subtype ∧ node.fields.Fits

namespace Component

theorem fits_array {items : Array Value} :
    (array items).Fits ↔ ∀ value ∈ items.toList, value.Fits :=
  Value.forall_texts_iff

theorem fits_table {entries : NameMap Value} : (table entries).Fits ↔ entries.Fits :=
  Dictionary.forall_texts_iff

theorem fits_list {items : List Value} : (list items).Fits ↔ ∀ value ∈ items, value.Fits :=
  Value.forall_texts_iff

theorem fits_timespan (start : Nat) : (timespan start).Fits := List.forall_mem_nil _

theorem fits_regex (data : Regex) : (regex data).Fits := List.forall_mem_nil _

theorem fits_text {value : String} : (text value).Fits ↔ Text.Fits value :=
  List.forall_mem_singleton

theorem fits_elementList (elements : List Handle) : (elementList elements).Fits :=
  List.forall_mem_nil _

theorem fits_node {data : Node} : (node data).Fits ↔ data.Fits := by
  rw [Node.Fits, ← Dictionary.forall_texts_iff]
  exact List.forall_mem_cons

theorem fits_host {object : HostObject} :
    (host object).Fits ↔ Text.Fits object.kind ∧ object.fields.Fits := by
  rw [← Dictionary.forall_texts_iff]
  exact List.forall_mem_cons

end Component

/-- The texts of an element are not too long. -/
structure XmlElement.Fits (element : XmlElement) : Prop where
  name : Text.Fits element.name
  attributes : ∀ entry ∈ element.attributes.entries, Text.Fits entry.1 ∧ Text.Fits entry.2
  body : ∀ text ∈ element.body.texts, Text.Fits text

theorem Component.fits_element {data : XmlElement} : (element data).Fits ↔ data.Fits := by
  constructor
  · intro hdata
    obtain ⟨hfront, hbody⟩ := List.forall_mem_append.mp hdata
    obtain ⟨hnames, hvalues⟩ := List.forall_mem_append.mp hfront
    obtain ⟨hname, hnames⟩ := List.forall_mem_cons.mp hnames
    refine ⟨hname, fun entry hentry => ⟨?_, ?_⟩, hbody⟩
    · exact hnames _ (List.mem_map_of_mem hentry)
    · exact hvalues _ (List.mem_map_of_mem hentry)
  · rintro ⟨hname, hattributes, hbody⟩
    refine List.forall_mem_append.mpr ⟨List.forall_mem_append.mpr ⟨?_, ?_⟩, hbody⟩
    · refine List.forall_mem_cons.mpr ⟨hname, List.forall_mem_map.mpr fun entry hentry => ?_⟩
      exact (hattributes entry hentry).1
    · exact List.forall_mem_map.mpr fun entry hentry => (hattributes entry hentry).2

end BrightScript
