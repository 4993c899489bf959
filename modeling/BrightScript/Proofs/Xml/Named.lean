import BrightScript.Proofs.Method.Effect
import BrightScript.Proofs.Scene.Forest
import BrightScript.Proofs.Xml.Chains

/-!
Looking elements up by name. An element gives those of its children that have the name, but for
itself: it is out of the heap while its method runs, and so has no name. A list of elements gives
the children of all of them, among which an element that contains itself is found.
-/

namespace BrightScript

namespace Xml

def element? (heap : Heap) (handle : Handle) : Option XmlElement :=
  match heap.get? handle with
  | some (.element element) => some element
  | _ => none

/-- Whether a handle's element has a name, where the case of letters may be ignored. -/
def isNamed (heap : Heap) (name : String) (ignoreCase : Bool) (handle : Handle) : Bool :=
  (element? heap handle).any fun element =>
    if ignoreCase then Name.same element.name name else element.name == name

/-- The children of a handle's element that have a name, in order and with repetitions. -/
def namedChildren (heap : Heap) (name : String) (ignoreCase : Bool) (handle : Handle) :
    List Handle :=
  (childrenOf heap handle).filter (isNamed heap name ignoreCase)

/-- The method that looks elements up by name. -/
def lookupMethod (ignoreCase : Bool) : String :=
  if ignoreCase then "getnamedelementsci" else "getnamedelements"

variable {heap : Heap} {this : Handle} {name : String} {ignoreCase : Bool}

theorem element?_eq_some_iff {handle : Handle} {element : XmlElement} :
    element? heap handle = some element ↔ heap.get? handle = some (.element element) := by
  unfold element?
  split <;> simp_all

theorem named_eq (heap : Heap) (name : String) (ignoreCase : Bool) (elements : List Handle) :
    named heap name ignoreCase elements = elements.filter (isNamed heap name ignoreCase) := by
  refine List.filter_congr fun handle _ => ?_
  rw [isNamed, element?]
  rcases heap.get? handle with _ | component
  · rfl
  · cases component <;> rfl

theorem isNamed_lend (heap : Heap) (this : Handle) (name : String) (ignoreCase : Bool)
    (handle : Handle) : isNamed (heap.lend this) name ignoreCase handle =
      (isNamed heap name ignoreCase handle && handle != this) := by
  rw [isNamed, isNamed, element?, element?, Heap.get?_lend]
  by_cases hsame : this = handle
  · rw [if_pos hsame, hsame, bne_self_eq_false, Bool.and_false]
    rfl
  · rw [if_neg hsame, bne_iff_ne.mpr (Ne.symm hsame), Bool.and_true]

theorem grandchildren_eq (heap : Heap) (elements : List Handle) :
    ElementListMethod.grandchildren heap elements = elements.flatMap (childrenOf heap) :=
  rfl

theorem isNamed_lend_of_list {elements : List Handle}
    (hthis : heap.get? this = some (.elementList elements)) :
    isNamed (heap.lend this) name ignoreCase = isNamed heap name ignoreCase := by
  funext handle
  rw [isNamed_lend]
  by_cases hsame : handle = this
  · rw [hsame, isNamed, element?, hthis]
    rfl
  · rw [bne_iff_ne.mpr hsame, Bool.and_true]

theorem childrenOf_lend_of_list {elements : List Handle}
    (hthis : heap.get? this = some (.elementList elements)) :
    childrenOf (heap.lend this) = childrenOf heap := by
  funext handle
  rw [childrenOf, childrenOf, Heap.get?_lend]
  by_cases hsame : this = handle
  · rw [if_pos hsame, ← hsame, hthis]
  · rw [if_neg hsame]

end Xml

theorem ElementMethod.call_namedElements (heap : Heap) (this : Handle) (element : XmlElement)
    (name : String) (ignoreCase : Bool) :
    ElementMethod.call heap this element ⟨Xml.lookupMethod ignoreCase, [.text name]⟩ =
      .ok (.made element heap (.elementList
        (element.children.filter (Xml.isNamed heap name ignoreCase)))) := by
  rw [← Xml.named_eq]
  cases ignoreCase <;> rfl

theorem ElementListMethod.call_namedElements (heap : Heap) (elements : List Handle)
    (name : String) (ignoreCase : Bool) :
    ElementListMethod.call heap elements ⟨Xml.lookupMethod ignoreCase, [.text name]⟩ =
      .ok (.made elements heap (.elementList
        ((grandchildren heap elements).filter (Xml.isNamed heap name ignoreCase)))) := by
  rw [← Xml.named_eq]
  cases ignoreCase <;> rfl

namespace Heap

variable {heap : Heap} {this : Handle}

theorem exists_gives_of_element (hheap : heap.WellFormed) (catalog : NodeCatalog)
    {method : String} {ignoreCase : Bool} (hmethod : Name.key method = Xml.lookupMethod ignoreCase)
    (name : String) {element : XmlElement} (hthis : heap.get? this = some (.element element)) :
    ∃ handle, (heap.callMethod catalog this method [.text name]).Gives heap handle
      (.elementList ((Xml.namedChildren heap name ignoreCase this).filter (· != this))) := by
  refine exists_gives_of_call hheap hthis ?_
  have hfound : element.children.filter (Xml.isNamed (heap.lend this) name ignoreCase) =
      (Xml.namedChildren heap name ignoreCase this).filter (· != this) := by
    rw [Xml.namedChildren, Xml.childrenOf_eq hthis, List.filter_filter]
    refine List.filter_congr fun handle _ => ?_
    rw [Xml.isNamed_lend, Bool.and_comm]
  rw [hmethod, Component.call_element, ElementMethod.call_namedElements, hfound]
  rfl

theorem exists_gives_of_elementList (hheap : heap.WellFormed) (catalog : NodeCatalog)
    {method : String} {ignoreCase : Bool} (hmethod : Name.key method = Xml.lookupMethod ignoreCase)
    (name : String) {elements : List Handle}
    (hthis : heap.get? this = some (.elementList elements)) :
    ∃ handle, (heap.callMethod catalog this method [.text name]).Gives heap handle
      (.elementList (elements.flatMap (Xml.namedChildren heap name ignoreCase))) := by
  refine exists_gives_of_call hheap hthis ?_
  have hfound : (ElementListMethod.grandchildren (heap.lend this) elements).filter
      (Xml.isNamed (heap.lend this) name ignoreCase) =
        elements.flatMap (Xml.namedChildren heap name ignoreCase) := by
    rw [Xml.isNamed_lend_of_list hthis, Xml.grandchildren_eq, Xml.childrenOf_lend_of_list hthis,
      List.filter_flatMap]
    rfl
  rw [hmethod, Component.call_elementList, ElementListMethod.call_namedElements, hfound]
  rfl

/-- An element gives its children of a name other than itself, and a list of elements the children
of that name of each of them, one after the other. Both are given in a new list, in order and with
repetitions, and nothing else changes. -/
theorem namedElements_gives_children (hheap : heap.WellFormed) (catalog : NodeCatalog)
    {method : String} {ignoreCase : Bool} (hmethod : Name.key method = Xml.lookupMethod ignoreCase)
    (name : String) :
    (∀ element, heap.get? this = some (.element element) →
      ∃ handle, (heap.callMethod catalog this method [.text name]).Gives heap handle
        (.elementList ((Xml.namedChildren heap name ignoreCase this).filter (· != this)))) ∧
    ∀ elements, heap.get? this = some (.elementList elements) →
      ∃ handle, (heap.callMethod catalog this method [.text name]).Gives heap handle
        (.elementList (elements.flatMap (Xml.namedChildren heap name ignoreCase))) :=
  ⟨fun _ => exists_gives_of_element hheap catalog hmethod name,
    fun _ => exists_gives_of_elementList hheap catalog hmethod name⟩

/-- An element that will hold itself, another one, or the list from which its body is made. -/
def holderHandle (index : Nat) : Handle := ⟨⟨0⟩, index, 0⟩

/-- A name for an element. -/
def nameElement (heap : Heap) (index : Nat) (name : String) : Heap :=
  (heap.callMethod .empty (holderHandle index) "SetName" [.text name]).heap

/-- An element at the end of the list. -/
def listElement (heap : Heap) (index : Nat) : Heap :=
  (heap.callMethod .empty (holderHandle 2) "Push" [.object (holderHandle index)]).heap

/-- An element whose body holds itself and another element, whose name differs in letter case. -/
def holder : Heap :=
  let empty : Heap := .empty ⟨0⟩
  let made := ((((empty.alloc (.element {})).2.alloc (.element {})).2).alloc (.elementList [])).2
  let listed := (((made.nameElement 0 "item").nameElement 1 "Item").listElement 0).listElement 1
  (listed.callMethod .empty (holderHandle 0) "SetBody" [.object (holderHandle 2)]).heap

theorem scripted_holder : holder.Scripted := by
  unfold holder nameElement listElement
  exact .callMethod (.callMethod (.callMethod (.callMethod (.callMethod (.literal (.literal
    (.literal (.empty ⟨0⟩ 0) rfl) rfl) rfl) _ _ _ _) _ _ _ _) _ _ _ _) _ _ _ _) _ _ _ _

theorem holder_contents :
    Xml.element? holder (holderHandle 0) =
      some ⟨"item", .empty, .elements [holderHandle 0, holderHandle 1]⟩ ∧
    Xml.element? holder (holderHandle 1) = some ⟨"Item", .empty, .empty⟩ ∧
    (match holder.get? (holderHandle 2) with
      | some (.elementList elements) => elements
      | _ => []) = [holderHandle 0, holderHandle 1] ∧
    ∀ handle ∈ holder.handles, ∀ child ∈ Xml.childrenOf holder handle,
      child = holderHandle 0 ∨ child = holderHandle 1 := by
  decide +kernel

theorem holder_item : holder.get? (holderHandle 0) =
    some (.element ⟨"item", .empty, .elements [holderHandle 0, holderHandle 1]⟩) :=
  Xml.element?_eq_some_iff.mp holder_contents.1

theorem holder_other : holder.get? (holderHandle 1) = some (.element ⟨"Item", .empty, .empty⟩) :=
  Xml.element?_eq_some_iff.mp holder_contents.2.1

theorem holder_list : holder.get? (holderHandle 2) =
    some (.elementList [holderHandle 0, holderHandle 1]) := by
  have hlist := holder_contents.2.2.1
  split at hlist
  · next hget => rw [hget, hlist]
  · cases hlist

theorem closed_holder : Xml.Closed holder := by
  intro handle element hget child hchild
  rw [← Xml.childrenOf_eq hget] at hchild
  rcases holder_contents.2.2.2 handle (mem_handles_of_get? hget) child hchild with rfl | rfl
  · exact ⟨_, holder_item⟩
  · exact ⟨_, holder_other⟩

theorem namedChildren_holder :
    Xml.namedChildren holder "ITEM" true (holderHandle 0) = [holderHandle 0, holderHandle 1] ∧
    Xml.namedChildren holder "ITEM" true (holderHandle 1) = [] ∧
    Xml.namedChildren holder "item" false (holderHandle 0) = [holderHandle 0] := by
  have hkeys : Name.key "item" = "item" ∧ Name.key "Item" = "item" ∧ Name.key "ITEM" = "item" := by
    simp [Name.key_eq_iff]
  have hitem := Xml.element?_eq_some_iff.mpr holder_item
  have hother := Xml.element?_eq_some_iff.mpr holder_other
  simp [Xml.namedChildren, Xml.childrenOf_eq holder_item, Xml.childrenOf_eq holder_other,
    XmlElement.children, Xml.isNamed, hitem, hother, Name.same, hkeys]

/-- The element is missing among its own children, but not among those of the list. -/
theorem namedElements_gives_children_of_holder :
    holder.WellFormed ∧ Name.key "GetNamedElementsCI" = Xml.lookupMethod true ∧
    (∃ handle, (holder.callMethod .empty (holderHandle 0) "GetNamedElementsCI" [.text "ITEM"]).Gives
      holder handle (.elementList [holderHandle 1])) ∧
    ∃ handle, (holder.callMethod .empty (holderHandle 2) "GetNamedElementsCI" [.text "ITEM"]).Gives
      holder handle (.elementList [holderHandle 0, holderHandle 1]) := by
  have hholder := scripted_holder.forested.wellFormed
  have hmethod : Name.key "GetNamedElementsCI" = Xml.lookupMethod true := by
    simp [Name.key_eq_iff, Xml.lookupMethod]
  obtain ⟨hfound, hnone, -⟩ := namedChildren_holder
  refine ⟨hholder, hmethod, ?_, ?_⟩
  · have hgives := (namedElements_gives_children hholder .empty hmethod "ITEM").1 _ holder_item
    rw [hfound] at hgives
    exact hgives
  · have hgives := (namedElements_gives_children hholder .empty hmethod "ITEM").2 _ holder_list
    rw [List.flatMap_cons, List.flatMap_singleton, hfound, hnone] at hgives
    exact hgives

/-- An element that stands in its own body and has the name is not given. -/
theorem getNamedElements_misses_receiver :
    Xml.Closed holder ∧ Xml.namedChildren holder "item" false (holderHandle 0) = [holderHandle 0] ∧
    ¬ ∃ handle, (holder.callMethod .empty (holderHandle 0) "GetNamedElements" [.text "item"]).Gives
      holder handle (.elementList (Xml.namedChildren holder "item" false (holderHandle 0))) := by
  have hholder := scripted_holder.forested.wellFormed
  have hmethod : Name.key "GetNamedElements" = Xml.lookupMethod false := by
    simp [Name.key_eq_iff, Xml.lookupMethod]
  obtain ⟨-, -, hfound⟩ := namedChildren_holder
  refine ⟨closed_holder, hfound, ?_⟩
  rintro ⟨handle, hgives⟩
  obtain ⟨other, hother⟩ := exists_gives_of_element hholder .empty hmethod "item" holder_item
  have hsame := Except.ok.inj (hgives.result_eq.symm.trans hother.result_eq)
  obtain rfl := Value.object.inj hsame
  have hboth := hgives.get?_self.symm.trans hother.get?_self
  rw [hfound] at hboth
  cases hboth

end Heap

end BrightScript
