import Mathlib
import BrightScript.Heap.Snapshot
import BrightScript.Proofs.Attempt

/-!
What the document of a value shows. The components that are being shown are kept in one set that the
whole walk shares; it holds just the components around the value that is shown, so that every value
is shown as it would be on its own path.
-/

namespace BrightScript

namespace Component

/-- The fields of a map, each with the document of its value. -/
def fieldDocuments {key : String → String} (nested : Value → Json) (fields : Dictionary key Value) :
    List (String × Json) :=
  fields.entries.map fun field => (field.1, nested field.2)

/-- The body of an element as a document. -/
def bodyDocument (nested : Value → Json) : XmlBody → Json
  | .empty => .null
  | .text value => .text value
  | .elements children => .array (children.map fun child => nested (.object child))

/-- The document that shows a component at a time, where `nested` shows the values in it. -/
def document (clock : Nat) (nested : Value → Json) : Component → Json
  | .array items => .array (items.toList.map nested)
  | .table entries => sortedObject (fieldDocuments nested entries)
  | .list items => .array (items.map nested)
  | .timespan start => .object [("totalMilliseconds", .integer ((clock - start) / 1000000 : Nat))]
  | .regex data => .object [("pattern", .text data.source)]
  | .text value => .text value
  | .element data => .object [
      ("attributes", sortedObject (data.attributes.entries.map fun (name, value) =>
        (name, .text value))),
      ("body", bodyDocument nested data.body),
      ("name", .text data.name)]
  | .elementList elements => .array (elements.map fun element => nested (.object element))
  | .node data => .object [
      ("children", .array (data.children.map fun child => nested (.object child))),
      ("fields", sortedObject (fieldDocuments nested data.fields)),
      ("subtype", .text data.subtype)]
  | .host object =>
    sortedObject (("kind", .text object.kind) :: fieldDocuments nested object.fields)

/-- The values whose documents are part of a component's document, in the order of the walk. -/
def shown : Component → List Value
  | .array items => items.toList
  | .table entries => entries.values
  | .list items => items
  | .timespan _ | .regex _ | .text _ => []
  | .element data => data.children.map .object
  | .elementList elements => elements.map .object
  | .node data => data.fields.values ++ data.children.map .object
  | .host object => object.fields.values

section Walk

variable {α β γ σ : Type} {P : σ → Prop} {next : σ → α → σ} {state : σ}

/-- A walk over items gives what `result` says of each, as long as the state meets `P`. -/
def Walks (P : σ → Prop) (next : σ → α → σ) (walk : α → StateM σ β) (result : α → β)
    (items : List α) : Prop :=
  ∀ item ∈ items, ∀ state, P state →
    walk item state = (result item, next state item) ∧ P (next state item)

theorem Walks.mapM {walk : α → StateM σ β} {result : α → β} {items : List α}
    (hwalk : Walks P next walk result items) (hstate : P state) :
    items.mapM walk state = (items.map result, items.foldl next state) ∧
      P (items.foldl next state) := by
  induction items generalizing state with
  | nil => exact ⟨rfl, hstate⟩
  | cons item rest ih =>
      obtain ⟨hitem, hnext⟩ := hwalk item List.mem_cons_self state hstate
      have hothers : Walks P next walk result rest :=
        fun other hother => hwalk other (List.mem_cons_of_mem _ hother)
      obtain ⟨hrest, hfinal⟩ := ih hothers hnext
      refine ⟨?_, hfinal⟩
      rw [List.mapM_cons]
      exact (bind_eq_of_eq hitem).trans (bind_eq_of_eq hrest)

end Walk

section Document

variable {σ : Type} {P : σ → Prop} {next : σ → Value → σ} {nested : Value → StateM σ Json}
  {result : Value → Json} {state : σ}

theorem fieldDocumentsM_eq {key : String → String} {fields : Dictionary key Value}
    (hnested : Walks P next nested result fields.values) (hstate : P state) :
    fieldDocumentsM nested fields state =
      (fieldDocuments result fields, fields.values.foldl next state) ∧
      P (fields.values.foldl next state) := by
  have hfields : Walks P (fun state field => next state field.2)
      (fun field : String × Value => do return (field.1, ← nested field.2))
      (fun field => (field.1, result field.2)) fields.entries := by
    intro field hfield state hstate
    obtain ⟨hvalue, hnext⟩ := hnested field.2 (List.mem_map_of_mem hfield) state hstate
    exact ⟨bind_eq_of_eq hvalue, hnext⟩
  rw [Dictionary.values, List.foldl_map]
  exact hfields.mapM hstate

theorem componentDocumentsM_eq {components : List Handle}
    (hnested : Walks P next nested result (components.map .object)) (hstate : P state) :
    componentDocumentsM nested components state =
      (components.map fun handle => result (.object handle),
        (components.map .object).foldl next state) ∧
      P ((components.map .object).foldl next state) := by
  have hcomponents : Walks P (fun state handle => next state (.object handle))
      (fun handle => nested (.object handle)) (fun handle => result (.object handle))
      components :=
    fun handle hhandle => hnested (.object handle) (List.mem_map_of_mem hhandle)
  rw [List.foldl_map]
  exact hcomponents.mapM hstate

theorem documentM_eq {component : Component} (clock : Nat)
    (hnested : Walks P next nested result component.shown) (hstate : P state) :
    component.documentM clock nested state =
      (component.document clock result, component.shown.foldl next state) := by
  cases component with
  | array items => exact bind_eq_of_eq (hnested.mapM hstate).1
  | table entries => exact bind_eq_of_eq (fieldDocumentsM_eq hnested hstate).1
  | list items => exact bind_eq_of_eq (hnested.mapM hstate).1
  | timespan start => rfl
  | regex data => rfl
  | text value => rfl
  | element data =>
      obtain ⟨name, attributes, body⟩ := data
      cases body with
      | empty => rfl
      | text value => rfl
      | elements children =>
          exact bind_eq_of_eq (bind_eq_of_eq (componentDocumentsM_eq hnested hstate).1)
  | elementList elements => exact bind_eq_of_eq (componentDocumentsM_eq hnested hstate).1
  | node data =>
      have hfields : Walks P next nested result data.fields.values :=
        fun value hvalue => hnested value (List.mem_append_left _ hvalue)
      have hchildren : Walks P next nested result (data.children.map .object) :=
        fun value hvalue => hnested value (List.mem_append_right _ hvalue)
      obtain ⟨hfirst, hafter⟩ := fieldDocumentsM_eq hfields hstate
      rw [shown, List.foldl_append]
      exact (bind_eq_of_eq hfirst).trans
        (bind_eq_of_eq (componentDocumentsM_eq hchildren hafter).1)
  | host object => exact bind_eq_of_eq (fieldDocumentsM_eq hnested hstate).1

theorem document_congr {component : Component} (clock : Nat) {result other : Value → Json}
    (hresult : ∀ value ∈ component.shown, result value = other value) :
    component.document clock result = component.document clock other := by
  -- a walk that only looks the documents up gives both
  have hwalk : Walks (· = ()) (fun state _ => state) (fun value => pure (result value)) result
      component.shown := fun _ _ _ hstate => ⟨rfl, hstate⟩
  have hother : Walks (· = ()) (fun state _ => state) (fun value => pure (result value)) other
      component.shown :=
    fun value hvalue _ hstate => ⟨congrArg (·, _) (hresult value hvalue), hstate⟩
  have hsame := (documentM_eq clock hwalk rfl).symm.trans (documentM_eq clock hother rfl)
  exact congrArg Prod.fst hsame

/-- A walk that notes each value that it is asked to show, and the state that it is then in. -/
def noting (nested : Value → StateM σ Json) (value : Value) :
    StateM (σ × List (Value × σ)) Json := fun (state, noted) =>
  let (document, after) := nested value state
  (document, after, noted ++ [(value, state)])

theorem documentM_noting {component : Component} (clock : Nat)
    (hnested : Walks (· = state) (fun state _ => state) nested result component.shown) :
    (component.documentM clock (noting nested) (state, [])).2.2 =
      component.shown.map (·, state) := by
  have hnoting : Walks (fun noted => noted.1 = state)
      (fun noted value => (noted.1, noted.2 ++ [(value, noted.1)])) (noting nested) result
      component.shown := by
    rintro value hvalue ⟨_, noted⟩ rfl
    refine ⟨?_, rfl⟩
    rw [noting, (hnested value hvalue _ rfl).1]
  have hnoted : ∀ (values : List Value) (noted : List (Value × σ)),
      values.foldl (fun noted value => (noted.1, noted.2 ++ [(value, noted.1)])) (state, noted) =
        (state, noted ++ values.map (·, state)) := by
    intro values
    induction values with
    | nil => simp
    | cons value rest ih =>
        intro noted
        rw [List.foldl_cons, ih, List.map_cons, List.append_assoc, List.singleton_append]
  rw [documentM_eq clock hnoting rfl, hnoted]
  rfl

end Document

end Component

namespace Heap

/-- The document of a value on the path of the components around it. -/
def documentAt (heap : Heap) (path : List Handle) : Value → Json
  | .invalid => .null
  | .boolean value => .bool value
  | .integer value => .integer value.toInt
  | .float value => .ofFloat value
  | .text value => .text value
  | .object handle =>
    match found : heap.get? handle with
    | none => .text "<released component>"
    | some component =>
      if fresh : path.contains handle = false then
        have := unvisited_cons_lt found fresh
        component.document heap.clock fun nested => heap.documentAt (handle :: path) nested
      else .text "<cycle>"
termination_by heap.unvisited path

theorem documentAt_object (heap : Heap) (path : List Handle) (handle : Handle) :
    heap.documentAt path (.object handle) =
      match heap.get? handle with
      | none => .text "<released component>"
      | some component =>
        if path.contains handle then .text "<cycle>"
        else component.document heap.clock (heap.documentAt (handle :: path)) := by
  rw [documentAt]
  split
  · rename_i hget
    rw [hget]
  · rename_i component hget
    simp only [hget]
    split
    · rename_i hfresh
      rw [hfresh, if_neg Bool.false_ne_true]
    · rename_i hmet
      rw [if_pos (Bool.not_eq_false _ ▸ hmet)]

variable {heap : Heap} {limit : Nat} {handle : Handle} {component : Component}

theorem documentAt_released (hget : heap.get? handle = none) (path : List Handle) :
    heap.documentAt path (.object handle) = .text "<released component>" := by
  rw [documentAt_object, hget]

theorem documentAt_cycle (hget : heap.get? handle = some component) {path : List Handle}
    (hmet : path.contains handle = true) :
    heap.documentAt path (.object handle) = .text "<cycle>" := by
  simp only [documentAt_object, hget, hmet, if_true]

theorem documentAt_component (hget : heap.get? handle = some component) {path : List Handle}
    (hfresh : path.contains handle = false) :
    heap.documentAt path (.object handle) =
      component.document heap.clock (heap.documentAt (handle :: path)) := by
  simp only [documentAt_object, hget, hfresh, Bool.false_eq_true, if_false]

section Step

variable {expand : ∀ {handle : Handle} {component : Component} (visiting : heap.Visiting limit),
  heap.get? handle = some component → visiting.1.contains handle = false →
    Json × heap.Visiting limit}
  {visiting : heap.Visiting limit}

theorem documentWith_released (hget : heap.get? handle = none) :
    heap.documentWith expand (.object handle) visiting =
      (.text "<released component>", visiting) := by
  simp only [documentWith]
  split
  · rfl
  · next hsome => rw [hget] at hsome; cases hsome

theorem documentWith_cycle (hget : heap.get? handle = some component)
    (hmet : visiting.1.contains handle = true) :
    heap.documentWith expand (.object handle) visiting = (.text "<cycle>", visiting) := by
  simp only [documentWith]
  split
  · next hnone => rw [hget] at hnone; cases hnone
  · rw [dif_neg (by rw [hmet]; decide)]

theorem documentWith_component (hget : heap.get? handle = some component)
    (hfresh : visiting.1.contains handle = false) :
    heap.documentWith expand (.object handle) visiting = expand visiting hget hfresh := by
  simp only [documentWith]
  split
  · next hnone => rw [hget] at hnone; cases hnone
  · next hsome =>
      cases hget.symm.trans hsome
      rw [dif_pos hfresh]

theorem documentWith_eq (hexpand : ∀ {handle component} (hget : heap.get? handle = some component)
      (hfresh : visiting.1.contains handle = false),
      expand visiting hget hfresh =
        (component.document heap.clock (heap.documentAt (handle :: visiting.1)), visiting))
    (value : Value) :
    heap.documentWith expand value visiting = (heap.documentAt visiting.1 value, visiting) := by
  cases value with
  | object handle =>
      cases hget : heap.get? handle with
      | none => rw [documentWith_released hget, documentAt_released hget]
      | some component =>
          cases hmet : visiting.1.contains handle with
          | true => rw [documentWith_cycle hget hmet, documentAt_cycle hget hmet]
          | false =>
              rw [documentWith_component hget hmet, hexpand, documentAt_component hget hmet]
  | _ =>
      rw [documentAt]
      rfl

end Step

theorem leave_enter (visiting : heap.Visiting (limit + 1))
    (hget : heap.get? handle = some component) (hfresh : visiting.1.contains handle = false) :
    (visiting.enter hget hfresh).leave handle = visiting :=
  Subtype.ext (List.erase_cons_head ..)

theorem walks_of_documentWithin {visiting : heap.Visiting limit}
    (hwalk : ∀ value, heap.documentWithin limit value visiting =
      (heap.documentAt visiting.1 value, visiting)) (values : List Value) :
    Component.Walks (· = visiting) (fun state _ => state) (heap.documentWithin limit)
      (heap.documentAt visiting.1) values := by
  rintro value - _ rfl
  exact ⟨hwalk value, rfl⟩

/-- Every value is shown as on the path of the components that are being shown, and these are the
same in the end. -/
theorem documentWithin_eq (heap : Heap) (limit : Nat) (value : Value)
    (visiting : heap.Visiting limit) :
    heap.documentWithin limit value visiting = (heap.documentAt visiting.1 value, visiting) := by
  -- one component more is being shown at each level
  induction limit generalizing value with
  | zero =>
      refine documentWith_eq (fun hget hfresh => ?_) value
      exact absurd rfl (visiting.limit_ne_zero hget hfresh)
  | succ limit ih =>
      refine documentWith_eq (fun {handle component} hget hfresh => ?_) value
      have hwalk := walks_of_documentWithin (fun value => ih value (visiting.enter hget hfresh))
        component.shown
      have hshown := Component.documentM_eq heap.clock hwalk rfl
      rw [List.foldl_fixed] at hshown
      simp only [hshown, leave_enter]
      rfl

theorem snapshot_eq (heap : Heap) (value : Value) :
    heap.snapshot value = heap.documentAt [] value :=
  congrArg Prod.fst (heap.documentWithin_eq _ value (.none heap))

theorem snapshot_released (hget : heap.get? handle = none) :
    heap.snapshot (.object handle) = .text "<released component>" := by
  rw [snapshot_eq, documentAt_released hget]

/-- What a value shows below the components of a path. A handle that does not resolve is a released
component, one of the path is a cycle, and any other shows its component, the values of which stand
below one component more. -/
inductive Unfolds (heap : Heap) : List Handle → Value → Json → Prop where
  | invalid {path : List Handle} : Unfolds heap path .invalid .null
  | boolean {path : List Handle} (value : Bool) : Unfolds heap path (.boolean value) (.bool value)
  | integer {path : List Handle} (value : Int64) :
    Unfolds heap path (.integer value) (.integer value.toInt)
  | float {path : List Handle} (value : Float) :
    Unfolds heap path (.float value) (.ofFloat value)
  | text {path : List Handle} (value : String) : Unfolds heap path (.text value) (.text value)
  | released {path : List Handle} {handle : Handle} : heap.get? handle = none →
    Unfolds heap path (.object handle) (.text "<released component>")
  | cycle {path : List Handle} {handle : Handle} {component : Component} :
    heap.get? handle = some component → handle ∈ path →
      Unfolds heap path (.object handle) (.text "<cycle>")
  | component {path : List Handle} {handle : Handle} {component : Component}
      {nested : Value → Json} :
    heap.get? handle = some component → handle ∉ path →
      (∀ value ∈ component.shown, Unfolds heap (handle :: path) value (nested value)) →
        Unfolds heap path (.object handle) (component.document heap.clock nested)

theorem unfolds_documentAt (heap : Heap) (path : List Handle) (value : Value) :
    heap.Unfolds path value (heap.documentAt path value) := by
  -- with each component shown, one handle less can still be met
  induction path, value using documentAt.induct heap with
  | case6 path handle hget =>
      rw [documentAt_released hget]
      exact .released hget
  | case7 path handle component hget hfresh hless ih =>
      rw [documentAt_component hget hfresh]
      exact .component hget (by simpa using hfresh) fun value _ => ih value
  | case8 path handle component hget hmet =>
      rw [Bool.not_eq_false] at hmet
      rw [documentAt_cycle hget hmet]
      exact .cycle hget (by simpa using hmet)
  | _ =>
      rw [documentAt]
      constructor

theorem unfolds_iff {path : List Handle} {value : Value} {json : Json} :
    heap.Unfolds path value json ↔ heap.documentAt path value = json := by
  constructor
  · intro hunfolds
    induction hunfolds with
    | released hget => exact documentAt_released hget _
    | cycle hget hmem => exact documentAt_cycle hget (by simpa using hmem)
    | component hget hfresh _ ih =>
        rw [documentAt_component hget (by simpa using hfresh)]
        exact Component.document_congr heap.clock ih
    | _ => rw [documentAt]
  · rintro rfl
    exact heap.unfolds_documentAt path value

/-- The values that are shown for the document of one value, each with the handles of the components
around it and the set that the walk has then. -/
inductive Calls (heap : Heap) (value : Value) :
    List Handle → Value → {limit : Nat} → heap.Visiting limit → Prop where
  | start : Calls heap value [] value (.none heap)
  | nested {path : List Handle} {handle : Handle} {component : Component} {shown : Value}
      {limit : Nat} {visiting : heap.Visiting (limit + 1)} {inner : heap.Visiting limit} :
    Calls heap value path (.object handle) visiting →
      (hget : heap.get? handle = some component) →
      (hfresh : visiting.1.contains handle = false) →
      (shown, inner) ∈ (component.documentM heap.clock
        (Component.noting (heap.documentWithin limit)) (visiting.enter hget hfresh, [])).2.2 →
        Calls heap value (handle :: path) shown inner

/-- The document of a value is the one that unfolds along the paths of components, and the set that
the walk shares holds just the components around whatever it shows. -/
theorem snapshot_unfolds (heap : Heap) (value : Value) :
    (∀ json, heap.Unfolds [] value json ↔ heap.snapshot value = json) ∧
    ∀ (path : List Handle) (shown : Value) (limit : Nat) (visiting : heap.Visiting limit),
      heap.Calls value path shown visiting → visiting.1 = path := by
  constructor
  · intro json
    rw [unfolds_iff, snapshot_eq]
  · intro path shown limit visiting hcall
    induction hcall with
    | start => rfl
    | nested hcall hget hfresh hnoted ih =>
        rw [Component.documentM_noting heap.clock
          (walks_of_documentWithin (fun value => heap.documentWithin_eq _ value _) _)] at hnoted
        obtain ⟨value, -, hsame⟩ := List.mem_map.mp hnoted
        obtain ⟨rfl, rfl⟩ := Prod.mk.inj hsame
        exact congrArg (_ :: ·) ih

/-- The first of two arrays that hold each other. -/
def knotted : Handle := ⟨⟨1⟩, 0, 0⟩

/-- The second of two arrays that hold each other. -/
def looped : Handle := ⟨⟨1⟩, 1, 0⟩

/-- Two arrays that hold each other: the first holds the second twice, the second also holds a
component of another run. -/
def knot : Heap where
  run := ⟨1⟩
  slots := #[
    { state := .occupied (.array #[.object looped, .object looped]) },
    { state := .occupied (.array #[.object knotted, .object ⟨⟨2⟩, 0, 0⟩]) }]

theorem snapshot_unfolds_knot :
    knot.Unfolds [] (.object knotted) (.array [
      .array [.text "<cycle>", .text "<released component>"],
      .array [.text "<cycle>", .text "<released component>"]]) ∧
    ∃ visiting : knot.Visiting 1, knot.Calls (.object knotted) [knotted] (.object looped)
      visiting ∧ visiting.1 = [knotted] := by
  obtain ⟨hdocument, hcalls⟩ := snapshot_unfolds knot (.object knotted)
  constructor
  · exact (hdocument _).mpr rfl
  · have hcall : knot.Calls (.object knotted) [knotted] (.object looped) _ :=
      .nested .start rfl rfl List.mem_cons_self
    exact ⟨_, hcall, hcalls _ _ _ _ hcall⟩

end Heap

end BrightScript
