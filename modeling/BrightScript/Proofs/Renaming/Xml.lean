import BrightScript.Proofs.Renaming.Call
import BrightScript.Proofs.Xml.Writing

namespace BrightScript

namespace Xml

variable {π : Equiv.Perm Handle} {heap mirror : Heap}

theorem mapM_congr {ε α β : Type} {first second : α → Except ε β} {items : List α}
    (hagree : ∀ item ∈ items, first item = second item) : items.mapM first = items.mapM second := by
  induction items with
  | nil => rfl
  | cons item items ih =>
      rw [List.mapM_cons, List.mapM_cons, hagree item List.mem_cons_self,
        ih fun item hitem => hagree item (List.mem_cons_of_mem _ hitem)]

theorem writeAt_rename (hheap : heap.Mirrors π mirror) (depth : Nat) (around : List Handle)
    (element : XmlElement) (helement : heap.Covers element.children) :
    writeAt mirror depth (around.map π) (element.rename π) = writeAt heap depth around element := by
  induction depth generalizing around element with
  | zero => rfl
  | succ depth ih =>
      unfold writeAt
      obtain ⟨name, attributes, body⟩ := element
      cases body with
      | empty => rfl
      | text value => rfl
      | elements children =>
          simp only [XmlElement.rename, XmlBody.rename]
          refine congrArg₂ (· >>= ·) ?_ rfl
          rw [List.mapM_map]
          refine mapM_congr fun child hchild => ?_
          simp only [Function.comp_apply, writeChildAt, contains_map_perm]
          split
          · rfl
          · rw [hheap.get?_eq (helement child hchild)]
            cases hget : heap.get? child with
            | none => rfl
            | some component =>
                cases component with
                | element inner => exact ih (child :: around) inner (hheap.covers hget)
                | _ => rfl

theorem document_rename (hheap : heap.Mirrors π mirror) (this : Handle) {element : XmlElement}
    (helement : heap.Covers element.children) :
    document mirror (π this) (element.rename π) = document heap this element := by
  rw [document_eq, document_eq]
  exact writeAt_rename hheap maxDepth [this] element helement

theorem named_rename (hheap : heap.Mirrors π mirror) (name : String) (ignoreCase : Bool)
    {elements : List Handle} (helements : heap.Covers elements) :
    named mirror name ignoreCase (elements.map π) =
      (named heap name ignoreCase elements).map π := by
  unfold named
  rw [List.filter_map]
  congr 1
  refine List.filter_congr fun handle hhandle => ?_
  rw [Function.comp_apply, hheap.get?_eq (helements handle hhandle)]
  cases heap.get? handle with
  | none => rfl
  | some component => cases component <;> rfl

theorem covers_named {name : String} {ignoreCase : Bool} {elements : List Handle}
    (helements : heap.Covers elements) : heap.Covers (named heap name ignoreCase elements) :=
  fun handle hhandle => helements handle (List.mem_filter.mp hhandle).1

end Xml

open Procedure

namespace ElementMethod

variable {π : Equiv.Perm Handle} {heap mirror : Heap} {this : Handle} {element : XmlElement}
  {call : Call}

theorem addChild_rename (f : Handle → Handle) (element : XmlElement) (child : Handle) :
    addChild (element.rename f) (f child) = (addChild element child).rename f := by
  unfold addChild
  rw [XmlElement.children_rename]
  simp [XmlElement.rename, XmlBody.rename]

theorem mirrors_addElement (hheap : heap.Mirrors π mirror) (helement : heap.Covers element.children)
    {child : XmlElement} (hchild : child.children = []) (hrename : child.rename π = child) :
    Effect.MirrorsAfter .element π heap (addElement heap element child)
      (addElement mirror (element.rename π) child) := by
  have hnew : heap.Covers (Component.element child).references := by
    rw [Component.references, hchild]
    exact Heap.covers_nil
  obtain ⟨σ, hlater, hafter, hhandle⟩ := hheap.alloc hnew
  rw [Component.rename, hrename] at hafter hhandle
  have hself := hheap.wellFormed.isValid_alloc_self (.element child)
  have hrenamed : (Component.element element).rename σ = (Component.element element).rename π :=
    hlater.rename_component helement
  refine ⟨σ, hlater, hafter, ?_, ?_, ?_, Heap.holds_object.mpr hself, rfl⟩
  · have hsame : element.rename σ = element.rename π := Component.element.inj hrenamed
    refine congrArg Component.element ?_
    change addChild (element.rename π) (mirror.alloc (.element child)).1 =
      (addChild element (heap.alloc (.element child)).1).rename σ
    rw [← hsame, ← hhandle, addChild_rename]
  · change (heap.alloc (.element child)).2.Covers
      (element.children ++ [(heap.alloc (.element child)).1])
    refine Heap.covers_append.mpr ⟨hlater.covers helement, ?_⟩
    simpa [Heap.Covers] using hself
  · exact congrArg Value.object hhandle.symm

theorem bodyOf?_rename (hheap : heap.Mirrors π mirror) {value : Value} (hvalue : heap.Holds value) :
    bodyOf? mirror (value.rename π) = (bodyOf? heap value).map (XmlBody.rename π) := by
  cases value with
  | object handle =>
      simp only [Value.rename_object, bodyOf?, hheap.get?_eq (Heap.holds_object.mp hvalue)]
      cases heap.get? handle with
      | none => rfl
      | some component => cases component <;> rfl
  | _ => rfl

theorem covers_bodyOf? (hheap : heap.Mirrors π mirror) {value : Value} {body : XmlBody}
    (hbody : bodyOf? heap value = some body) :
    heap.Covers { element with body := body }.children := by
  unfold bodyOf? at hbody
  split at hbody
  · cases hbody
    exact Heap.covers_nil
  · cases hbody
    exact Heap.covers_nil
  · split at hbody
    · rename_i hget
      cases hbody
      exact hheap.covers hget
    · cases hbody
  · cases hbody

theorem mirrors_named (hheap : heap.Mirrors π mirror) (helement : heap.Covers element.children)
    (name : String) (ignoreCase : Bool) :
    Effect.MirrorsAfter .element π heap
      (.made element heap (.elementList (Xml.named heap name ignoreCase element.children)))
      (.made (element.rename π) mirror
        (.elementList (Xml.named mirror name ignoreCase (element.rename π).children))) := by
  have hstate : Component.element (element.rename π) = (Component.element element).rename π := rfl
  refine .made hheap hstate helement ?_ (Xml.covers_named helement)
  rw [XmlElement.children_rename, Xml.named_rename hheap name ignoreCase helement]
  rfl

theorem mirrors_attributes (hheap : heap.Mirrors π mirror)
    (helement : heap.Covers element.children) :
    Effect.MirrorsAfter .element π heap
      (.made element heap (.table (.ofList (element.attributes.entries.map
        fun entry => (entry.1, Value.text entry.2)))))
      (.made (element.rename π) mirror (.table (.ofList ((element.rename π).attributes.entries.map
        fun entry => (entry.1, Value.text entry.2))))) := by
  have hstate : Component.element (element.rename π) = (Component.element element).rename π := rfl
  refine .made hheap hstate helement ?_ ?_
  · refine congrArg Component.table ?_
    rw [← Dictionary.ofList_map, List.map_map]
    rfl
  · refine Heap.covers_handles.mpr fun value hvalue => ?_
    have hmem := Dictionary.mem_values_ofList hvalue
    rw [List.map_map] at hmem
    obtain ⟨entry, -, rfl⟩ := List.mem_map.mp hmem
    exact Heap.holds_text

theorem agrees_call (hheap : heap.Mirrors π mirror) (helement : heap.Covers element.children)
    (hcall : ∀ value ∈ call.arguments, heap.Holds value) :
    Agrees MethodError.Ordinary (Effect.MirrorsAfter .element π heap)
      (ElementMethod.call heap this element call)
      (ElementMethod.call mirror (π this) (element.rename π) (call.rename π)) := by
  have hstate : Component.element (element.rename π) = (Component.element element).rename π := rfl
  have hkept : heap.Covers (Component.element element).references := helement
  unfold ElementMethod.call perform
  rw [Call.method_rename]
  split <;> simp -implicitDefEqProofs only [outcome_check, outcome_own, outcome_heap, outcome_ite,
    pure_bind, outcome_throw]
  case h_1 => exact .expect (.ok (.quiet hheap hstate hkept rfl Heap.holds_text))
  case h_2 =>
    refine .expect (.text fun name => .ok (.quiet hheap ?_ ?_ rfl Heap.holds_invalid))
    · rfl
    · exact helement
  case h_3 =>
    refine .expect (.text fun name => .text fun value =>
      .ok (.quiet hheap ?_ ?_ rfl Heap.holds_invalid))
    · rfl
    · exact helement
  case h_4 =>
    exact .expect (.text fun name => .ok (.quiet hheap hstate hkept rfl Heap.holds_boolean))
  case h_5 => exact .expect (.ok (mirrors_attributes hheap helement))
  case h_6 =>
    refine .expect (.value hcall fun value hvalue => ?_)
    rw [bodyOf?_rename hheap hvalue]
    cases hbody : bodyOf? heap value with
    | none => exact .fail
    | some body =>
        refine .ok (.quiet hheap ?_ ?_ rfl Heap.holds_invalid)
        · rfl
        · exact covers_bodyOf? hheap hbody
  case h_7 =>
    refine .expect ?_
    obtain ⟨name, attributes, body⟩ := element
    cases body with
    | empty => exact .ok (.quiet hheap hstate hkept rfl Heap.holds_invalid)
    | text value => exact .ok (.quiet hheap hstate hkept rfl Heap.holds_text)
    | elements children => exact .ok (.made hheap hstate hkept rfl helement)
  case h_8 =>
    refine .expect ?_
    obtain ⟨name, attributes, body⟩ := element
    cases body with
    | empty | text | elements => exact .ok (.quiet hheap hstate hkept rfl Heap.holds_text)
  case h_9 => exact .expect (.text fun name => .ok (mirrors_addElement hheap helement rfl rfl))
  case h_10 =>
    exact .expect (.text fun name => .text fun body =>
      .ok (mirrors_addElement hheap helement rfl rfl))
  case h_11 =>
    refine .expect ?_
    obtain ⟨name, attributes, body⟩ := element
    cases body with
    | empty | text => exact .ok (.quiet hheap hstate hkept rfl Heap.holds_invalid)
    | elements children => exact .ok (.made hheap hstate hkept rfl helement)
  case h_12 | h_13 => exact .expect (.text fun name => .ok (mirrors_named hheap helement name _))
  case h_14 =>
    refine .expectBetween ?_
    rw [Call.arguments_rename, List.isEmpty_map, Xml.document_rename hheap this helement]
    cases Xml.document heap this element with
    | ok written =>
        by_cases hempty : call.arguments.isEmpty = true
        · rw [if_pos hempty, if_pos hempty]
          exact .ok (.quiet hheap hstate hkept rfl Heap.holds_text)
        · rw [if_neg hempty, if_neg hempty]
          exact .boolean fun withHeader => .ok (.quiet hheap hstate hkept rfl Heap.holds_text)
    | error e =>
        by_cases hempty : call.arguments.isEmpty = true
        · rw [if_pos hempty, if_pos hempty]
          exact .fail
        · rw [if_neg hempty, if_neg hempty]
          exact .boolean fun withHeader => .fail
  case h_15 => exact .unknown

end ElementMethod

namespace ElementListMethod

variable {π : Equiv.Perm Handle} {heap mirror : Heap} {elements : List Handle} {call : Call}

theorem grandchildren_rename (hheap : heap.Mirrors π mirror) (helements : heap.Covers elements) :
    grandchildren mirror (elements.map π) = (grandchildren heap elements).map π := by
  unfold grandchildren
  rw [List.flatMap_map, List.map_flatMap]
  refine List.flatMap_congr fun handle hhandle => ?_
  rw [hheap.get?_eq (helements handle hhandle)]
  cases heap.get? handle with
  | none => rfl
  | some component =>
      cases component with
      | element element => exact XmlElement.children_rename π element
      | _ => rfl

theorem covers_grandchildren (hheap : heap.Mirrors π mirror) :
    heap.Covers (grandchildren heap elements) := by
  intro handle hhandle
  obtain ⟨parent, -, hparent⟩ := List.mem_flatMap.mp hhandle
  split at hparent
  · rename_i hget
    exact hheap.covers hget handle hparent
  · cases hparent

theorem mirrors_push (hheap : heap.Mirrors π mirror) (helements : heap.Covers elements)
    {handle : Handle} (hhandle : heap.isValid handle = true) :
    Effect.MirrorsAfter .elementList π heap ⟨elements ++ [handle], heap, .invalid, []⟩
      ⟨elements.map π ++ [π handle], mirror, .invalid, []⟩ := by
  refine .quiet hheap ?_ ?_ rfl Heap.holds_invalid
  · simp [Component.rename]
  · refine Heap.covers_append.mpr ⟨helements, ?_⟩
    simpa [Heap.Covers] using hhandle

theorem mirrors_named (hheap : heap.Mirrors π mirror) (helements : heap.Covers elements)
    (name : String) (ignoreCase : Bool) :
    Effect.MirrorsAfter .elementList π heap
      (.made elements heap
        (.elementList (Xml.named heap name ignoreCase (grandchildren heap elements))))
      (.made (elements.map π) mirror (.elementList (Xml.named mirror name ignoreCase
        (grandchildren mirror (elements.map π))))) := by
  have hstate : Component.elementList (elements.map π) =
      (Component.elementList elements).rename π := rfl
  refine .made hheap hstate helements ?_ (Xml.covers_named (covers_grandchildren hheap))
  rw [grandchildren_rename hheap helements,
    Xml.named_rename hheap name ignoreCase (covers_grandchildren hheap)]
  rfl

theorem agrees_call (hheap : heap.Mirrors π mirror) (helements : heap.Covers elements)
    (hcall : ∀ value ∈ call.arguments, heap.Holds value) :
    Agrees MethodError.Ordinary (Effect.MirrorsAfter .elementList π heap)
      (ElementListMethod.call heap elements call)
      (ElementListMethod.call mirror (elements.map π) (call.rename π)) := by
  have hstate : Component.elementList (elements.map π) =
      (Component.elementList elements).rename π := rfl
  have hkept : heap.Covers (Component.elementList elements).references := helements
  unfold ElementListMethod.call perform
  rw [Call.method_rename]
  split <;> simp -implicitDefEqProofs only [outcome_check, outcome_heap, outcome_throw]
  case h_1 =>
    refine .expect (.ok (.quiet hheap hstate hkept ?_ Heap.holds_ofNat))
    rw [List.length_map, Value.rename_ofNat]
  case h_2 =>
    refine .expect (.ok (.quiet hheap hstate hkept ?_ Heap.holds_boolean))
    rw [List.isEmpty_map, Value.rename_boolean]
  case h_3 | h_4 =>
    refine .expect (.object hcall fun handle hhandle => ?_)
    rw [hheap.get?_eq hhandle]
    cases heap.get? handle with
    | none => exact .fail
    | some component =>
        cases component with
        | element data => exact .ok (mirrors_push hheap helements hhandle)
        | _ => exact .fail
  case h_5 =>
    refine .expect (.ok (.quiet hheap hstate hkept ?_ ?_))
    · rw [List.head?_map, Value.rename_ofHandle?]
    · exact Heap.holds_ofHandle?.mpr fun handle hhandle =>
        helements handle (List.mem_of_head? (Option.mem_toList.mp hhandle))
  case h_6 =>
    refine .expect (.ok (.quiet hheap hstate hkept ?_ ?_))
    · rw [List.getLast?_map, Value.rename_ofHandle?]
    · exact Heap.holds_ofHandle?.mpr fun handle hhandle =>
        helements handle (List.mem_of_getLast? (Option.mem_toList.mp hhandle))
  case h_7 =>
    refine .expect (.index fun index => .ok (.quiet hheap hstate hkept ?_ ?_))
    · rw [Value.rename_ofHandle?, Option.map_bind]
      simp
    · refine Heap.holds_ofHandle?.mpr fun handle hhandle => ?_
      obtain ⟨index, -, hhandle⟩ := Option.bind_eq_some_iff.mp (Option.mem_toList.mp hhandle)
      exact helements handle (List.mem_of_getElem? hhandle)
  case h_8 | h_9 => exact .expect (.text fun name => .ok (mirrors_named hheap helements name _))
  case h_10 => exact .unknown

end ElementListMethod

end BrightScript
