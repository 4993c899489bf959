import BrightScript.Proofs.Heap.Snapshot
import BrightScript.Proofs.Renaming.Dispatch

namespace BrightScript

namespace Component

theorem fieldDocuments_rename {key : String → String} {f : Handle → Handle}
    {nested nested' : Value → Json} {fields : Dictionary key Value}
    (hnested : ∀ value ∈ fields.values, nested' (value.rename f) = nested value) :
    fieldDocuments nested' (fields.mapValues (Value.rename f)) = fieldDocuments nested fields := by
  simp only [fieldDocuments, Dictionary.entries_mapValues, List.map_map]
  refine List.map_congr_left fun field hfield => congrArg (Prod.mk field.1) ?_
  exact hnested field.2 (List.mem_map_of_mem hfield)

theorem bodyDocument_rename {f : Handle → Handle} {nested nested' : Value → Json}
    {element : XmlElement}
    (hnested : ∀ child ∈ element.children, nested' (.object (f child)) = nested (.object child)) :
    bodyDocument nested' (element.body.rename f) = bodyDocument nested element.body := by
  obtain ⟨name, attributes, body⟩ := element
  cases body with
  | elements children =>
      refine congrArg Json.array ?_
      rw [List.map_map]
      exact List.map_congr_left hnested
  | _ => rfl

theorem document_rename {f : Handle → Handle} {clock : Nat} {nested nested' : Value → Json}
    {component : Component}
    (hnested : ∀ value ∈ component.shown, nested' (value.rename f) = nested value) :
    (component.rename f).document clock nested' = component.document clock nested := by
  have hchildren : ∀ {children : List Handle},
      (∀ value ∈ children.map Value.object, nested' (value.rename f) = nested value) →
      (children.map f).map (fun child => nested' (.object child)) =
        children.map fun child => nested (.object child) := by
    intro children hnested
    rw [List.map_map]
    exact List.map_congr_left fun child hchild => hnested _ (List.mem_map_of_mem hchild)
  cases component with
  | array items =>
      refine congrArg Json.array ?_
      rw [Array.toList_map, List.map_map]
      exact List.map_congr_left hnested
  | table entries => exact congrArg sortedObject (fieldDocuments_rename hnested)
  | list items =>
      refine congrArg Json.array ?_
      rw [List.map_map]
      exact List.map_congr_left hnested
  | timespan start => rfl
  | regex data => rfl
  | text value => rfl
  | element data =>
      have hbody := bodyDocument_rename fun child hchild => hnested _ (List.mem_map_of_mem hchild)
      simp only [rename, document, XmlElement.rename, hbody]
  | elementList elements => exact congrArg Json.array (hchildren hnested)
  | node data =>
      simp only [shown, List.forall_mem_append] at hnested
      simp only [rename, document, Node.rename, fieldDocuments_rename hnested.1,
        hchildren hnested.2]
  | host object =>
      simp only [rename, document, HostObject.rename, fieldDocuments_rename hnested]

theorem holds_of_shown {heap : Heap} {component : Component}
    (hcomponent : heap.Covers component.references) :
    ∀ value ∈ component.shown, heap.Holds value := by
  have hchildren : ∀ {children : List Handle}, heap.Covers children →
      ∀ value ∈ children.map Value.object, heap.Holds value := by
    intro children hcovers value hvalue
    obtain ⟨child, hchild, rfl⟩ := List.mem_map.mp hvalue
    exact Heap.holds_object.mpr (hcovers child hchild)
  cases component with
  | array items => exact Heap.covers_handles.mp hcomponent
  | table entries => exact Heap.covers_handles.mp hcomponent
  | list items => exact Heap.covers_handles.mp hcomponent
  | element data => exact hchildren hcomponent
  | elementList elements => exact hchildren hcomponent
  | node data =>
      obtain ⟨hfields, hbelow, -⟩ := Heap.covers_node.mp hcomponent
      exact List.forall_mem_append.mpr ⟨hfields, hchildren hbelow⟩
  | host object => exact Heap.covers_handles.mp hcomponent
  | _ =>
      intro value hvalue
      cases hvalue

end Component

namespace Heap

theorem Mirrors.documentAt_rename {π : Equiv.Perm Handle} {heap mirror : Heap}
    (hheap : Mirrors π heap mirror) (path : List Handle) {value : Value}
    (hvalue : heap.Holds value) :
    mirror.documentAt (path.map π) (value.rename π) = heap.documentAt path value := by
  -- with each component shown, one handle less can still be met
  induction path, value using documentAt.induct heap with
  | case7 path handle component hget hfresh hless ih =>
      have hnested : ∀ nested ∈ component.shown,
          mirror.documentAt (π handle :: path.map π) (nested.rename π) =
            heap.documentAt (handle :: path) nested :=
        fun nested hshown => ih nested (Component.holds_of_shown (hheap.covers hget) nested hshown)
      rw [Value.rename_object, documentAt_object, documentAt_object, hheap.get?_of_get? hget, hget]
      simp only [contains_map_perm, hfresh, hheap.clock_eq]
      exact Component.document_rename hnested
  | case6 path handle hget =>
      rw [Value.rename_object, documentAt_object, documentAt_object,
        hheap.get?_eq (holds_object.mp hvalue), hget, Option.map_none]
  | case8 path handle component hget hmet =>
      rw [Bool.not_eq_false] at hmet
      rw [Value.rename_object, documentAt_object, documentAt_object, hheap.get?_of_get? hget, hget]
      simp only [contains_map_perm, hmet, if_true]
  | _ => simp only [Value.rename_invalid, Value.rename_boolean, Value.rename_integer,
      Value.rename_float, Value.rename_text, documentAt]

theorem Mirrors.snapshot_rename {π : Equiv.Perm Handle} {heap mirror : Heap}
    (hheap : Mirrors π heap mirror) {value : Value} (hvalue : heap.Holds value) :
    mirror.snapshot (value.rename π) = heap.snapshot value := by
  rw [snapshot_eq, snapshot_eq]
  exact hheap.documentAt_rename [] hvalue

end Heap

end BrightScript
