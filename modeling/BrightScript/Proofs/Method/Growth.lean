import BrightScript.Method.Dispatch
import BrightScript.Proofs.Attempt
import BrightScript.Proofs.Heap.Bookkeeping
import BrightScript.Proofs.Scene.Links

namespace BrightScript

namespace Heap

/-- A heap becomes another by adding components that are not nodes. -/
inductive Grows (heap : Heap) : Heap → Prop
  | refl : Grows heap heap
  | alloc {larger : Heap} (hgrows : Grows heap larger) (component : Component)
      (hleaf : component.links? = none) : Grows heap (larger.alloc component).2

namespace Grows

theorem trans {first second third : Heap} (h₁ : first.Grows second) (h₂ : second.Grows third) :
    first.Grows third := by
  induction h₂ with
  | refl => exact h₁
  | alloc _ component hleaf ih => exact ih.alloc component hleaf

theorem wellFormed {heap larger : Heap} (hgrows : heap.Grows larger)
    (hheap : heap.WellFormed) : larger.WellFormed := by
  induction hgrows with
  | refl => exact hheap
  | alloc _ component _ ih => exact ih.alloc component

theorem slot?_eq {heap larger : Heap} (hgrows : heap.Grows larger) (hheap : heap.WellFormed)
    {handle : Handle} (hvalid : heap.isValid handle = true) :
    larger.slot? handle = heap.slot? handle := by
  induction hgrows with
  | refl => rfl
  | @alloc larger hgrows component _ ih =>
      obtain ⟨slot, -, -, hnone, hslots⟩ := (hgrows.wellFormed hheap).slot?_alloc component
      rw [hslots, if_neg, ih]
      rintro rfl
      rw [isValid, ← ih, hnone] at hvalid
      cases hvalid

theorem get?_eq {heap larger : Heap} (hgrows : heap.Grows larger) (hheap : heap.WellFormed)
    {handle : Handle} (hvalid : heap.isValid handle = true) :
    larger.get? handle = heap.get? handle := by
  rw [get?, get?, hgrows.slot?_eq hheap hvalid]

theorem isValid_of_isValid {heap larger : Heap} (hgrows : heap.Grows larger)
    (hheap : heap.WellFormed) {handle : Handle} (hvalid : heap.isValid handle = true) :
    larger.isValid handle = true := by
  rw [isValid, hgrows.slot?_eq hheap hvalid]
  exact hvalid

theorem links?_eq_none {heap larger : Heap} (hgrows : heap.Grows larger)
    (hheap : heap.WellFormed) {handle : Handle} (hinvalid : heap.isValid handle = false)
    {component : Component} (hget : larger.get? handle = some component) :
    component.links? = none := by
  induction hgrows with
  | refl =>
      rw [get?_eq_none_of_not_isValid hinvalid] at hget
      cases hget
  | @alloc larger hgrows new hleaf ih =>
      rw [(hgrows.wellFormed hheap).get?_alloc] at hget
      split at hget
      · cases hget
        exact hleaf
      · exact ih hget

end Grows

end Heap

theorem Effect.grows_made {α : Type} (state : α) {heap larger : Heap} (hgrows : heap.Grows larger)
    {component : Component} (hleaf : component.links? = none) :
    heap.Grows (Effect.made state larger component).heap :=
  hgrows.alloc component hleaf

open Procedure

namespace TableMethod

theorem grows_entries (heap : Heap) (fields : List (String × Value)) :
    heap.Grows (entries heap fields).2 := by
  induction fields generalizing heap with
  | nil => exact .refl
  | cons field fields ih => exact (Heap.Grows.refl.alloc _ rfl).trans (ih _)

theorem grows_call {heap : Heap} {this : Handle} {table : NameMap Value} {call : Call}
    {effect : Effect (NameMap Value)} (hcall : TableMethod.call heap this table call = .ok effect) :
    heap.Grows effect.heap := by
  have hentries := grows_entries heap table.entries
  unfold TableMethod.call perform at hcall
  split at hcall <;> simp only [outcome_check, outcome_throw, bind_eq_ok_iff, reduceCtorEq] at hcall
  all_goals grind [Heap.Grows.refl, Effect.grows_made, Component.links?]

end TableMethod

namespace RegexMethod

theorem grows_textArrays (heap : Heap) (texts : List (List String)) :
    heap.Grows (textArrays heap texts).2 := by
  induction texts generalizing heap with
  | nil => exact .refl
  | cons first texts ih => exact (Heap.Grows.refl.alloc _ rfl).trans (ih _)

theorem grows_call {heap : Heap} {regex : Regex} {call : Call} {effect : Effect Regex}
    (hcall : RegexMethod.call heap regex call = .ok effect) : heap.Grows effect.heap := by
  unfold RegexMethod.call perform at hcall
  split at hcall <;> simp only [outcome_check, outcome_throw, bind_eq_ok_iff, reduceCtorEq] at hcall
  all_goals
    grind [Heap.Grows.refl, Effect.grows_made, grows_textArrays, textArray, Component.links?]

end RegexMethod

namespace ElementMethod

theorem grows_call {heap : Heap} {this : Handle} {element : XmlElement} {call : Call}
    {effect : Effect XmlElement} (hcall : ElementMethod.call heap this element call = .ok effect) :
    heap.Grows effect.heap := by
  unfold ElementMethod.call perform at hcall
  split at hcall <;> simp only [outcome_check, outcome_throw, bind_eq_ok_iff, reduceCtorEq] at hcall
  all_goals
    grind [bind_eq_ok_iff, Heap.Grows.refl, Effect.grows_made, addElement, Heap.Grows.alloc,
      Component.links?]

end ElementMethod

namespace ElementListMethod

theorem grows_call {heap : Heap} {elements : List Handle} {call : Call}
    {effect : Effect (List Handle)}
    (hcall : ElementListMethod.call heap elements call = .ok effect) :
    heap.Grows effect.heap := by
  unfold ElementListMethod.call perform at hcall
  split at hcall <;> simp only [outcome_check, outcome_throw, bind_eq_ok_iff, reduceCtorEq] at hcall
  all_goals grind [Heap.Grows.refl, Effect.grows_made, Component.links?]

end ElementListMethod

namespace Node

@[simp] theorem children_setField (node : Node) (name : String) (value : Value) :
    (node.setField name value).children = node.children := rfl

@[simp] theorem parent_setField (node : Node) (name : String) (value : Value) :
    (node.setField name value).parent = node.parent := rfl

theorem links_setFields (node : Node) (adding : Bool) (fields : List (String × Value)) :
    (node.setFields adding fields).children = node.children ∧
      (node.setFields adding fields).parent = node.parent := by
  unfold setFields
  induction fields generalizing node with
  | nil => exact ⟨rfl, rfl⟩
  | cons field fields ih =>
      rw [List.foldl_cons]
      split
      · exact ih _
      · exact ih _

end Node

namespace NodeMethod

theorem eq_of_object {call : Call} {checked : Unit} {handle : Handle}
    (hexpect : call.expect 1 = .ok checked) (hobject : call.object 0 = .ok handle) :
    call = ⟨call.method, [.object handle]⟩ := by
  obtain ⟨method, arguments⟩ := call
  rw [Call.mk.injEq]
  refine ⟨rfl, ?_⟩
  unfold Call.expect Call.expectBetween at hexpect
  unfold Call.object at hobject
  match arguments with
  | [] => cases hobject
  | [argument] =>
      cases argument with
      | object found => cases hobject; rfl
      | _ => cases hobject
  | first :: second :: rest => simp at hexpect

/-- What a method of a node does: it leaves the links alone, or appends, creates or removes a
child. -/
inductive Outcome (heap : Heap) (catalog : NodeCatalog) (this : Handle) (node : Node) (call : Call)
    (effect : Effect Node) : Prop
  | quiet (hgrows : heap.Grows effect.heap) (hchildren : effect.state.children = node.children)
      (hparent : effect.state.parent = node.parent)
  | append (child : Handle) (happend : node.appendChild heap this child = .ok effect)
      (hcall : call = ⟨"appendchild", [.object child]⟩)
  | create (kind : String) (hcreate : createChild heap catalog this node kind = .ok effect)
  | remove (child : Handle) (hremove : node.removeChild heap child = effect)
      (hcall : call = ⟨"removechild", [.object child]⟩)

theorem outcome_of_call {heap : Heap} {catalog : NodeCatalog} {this : Handle} {node : Node}
    {call : Call} {effect : Effect Node}
    (hcall : NodeMethod.call heap catalog this node call = .ok effect) :
    Outcome heap catalog this node call effect := by
  unfold NodeMethod.call perform at hcall
  split at hcall <;> simp only [outcome_check, outcome_adaptExcept, outcome_throw,
    Node.outcome_append, outcome_create, bind_eq_ok_iff, mapError_eq_ok_iff, reduceCtorEq] at hcall
  all_goals
    grind [bind_eq_ok_iff, Outcome, eq_of_object, Heap.Grows.refl, Effect.grows_made, Effect.made,
      Component.links?, Node.links_setFields, Node.children_setField, Node.parent_setField]

end NodeMethod

end BrightScript
