import BrightScript.Method.Collection
import BrightScript.Proofs.Renaming.Call

namespace BrightScript

namespace Heap

variable {heap : Heap}

@[simp] theorem covers_array {items : Array Value} :
    heap.Covers (Component.array items).references ↔ ∀ value ∈ items, heap.Holds value := by
  simp [Component.references]

@[simp] theorem covers_table {entries : NameMap Value} :
    heap.Covers (Component.table entries).references ↔
      ∀ value ∈ entries.values, heap.Holds value := by
  simp [Component.references]

@[simp] theorem covers_list {items : List Value} :
    heap.Covers (Component.list items).references ↔ ∀ value ∈ items, heap.Holds value := by
  simp [Component.references]

end Heap

/-- A method without effect on the heap gives the same state and value on the mirror. -/
structure SamePair {α : Type} (wrap : α → Component) (π : Equiv.Perm Handle) (heap : Heap)
    (pair mirror : α × Value) : Prop where
  state_eq : wrap mirror.1 = (wrap pair.1).rename π
  covers : heap.Covers (wrap pair.1).references
  value_eq : mirror.2 = pair.2.rename π
  holds : heap.Holds pair.2

theorem SamePair.effect {α : Type} {wrap : α → Component} {π : Equiv.Perm Handle}
    {heap mirror : Heap} {pair pair' : α × Value} (hpair : SamePair wrap π heap pair pair')
    (hheap : heap.Mirrors π mirror) :
    Effect.MirrorsAfter id π heap ⟨wrap pair.1, heap, pair.2, []⟩
      ⟨wrap pair'.1, mirror, pair'.2, []⟩ :=
  ⟨π, .refl π heap, hheap, hpair.state_eq, hpair.covers, hpair.value_eq, hpair.holds, rfl⟩

open Procedure

namespace ArrayMethod

variable {π : Equiv.Perm Handle} {heap mirror : Heap} {this : Handle} {items : Array Value}
  {call : Call}

theorem filledTo_map (f : Value → Value) (hinvalid : f .invalid = .invalid) (items : Array Value)
    (count : Nat) : filledTo (items.map f) count = (filledTo items count).map f := by
  simp [filledTo, hinvalid]

theorem holds_filledTo (hitems : ∀ value ∈ items, heap.Holds value) (count : Nat) :
    ∀ value ∈ filledTo items count, heap.Holds value := by
  intro value hvalue
  rcases Array.mem_append.mp hvalue with hvalue | hvalue
  · exact hitems value hvalue
  · rw [(Array.mem_replicate.mp hvalue).2]
    exact Heap.holds_invalid

theorem samePair_setIfInBounds (hitems : ∀ value ∈ items, heap.Holds value) (index : Nat)
    {value : Value} (hvalue : heap.Holds value) :
    SamePair .array π heap (items.setIfInBounds index value, .invalid)
      ((items.map (Value.rename π)).setIfInBounds index (value.rename π), .invalid) := by
  refine ⟨?_, ?_, rfl, Heap.holds_invalid⟩
  · exact congrArg Component.array Array.map_setIfInBounds.symm
  · refine Heap.covers_array.mpr fun other hother => ?_
    rcases Array.mem_or_eq_of_mem_setIfInBounds hother with hother | rfl
    · exact hitems other hother
    · exact hvalue

theorem joined_map (f : Handle → Handle) (separator : String) (items : List Value) :
    joined separator (items.map (Value.rename f)) = joined separator items := by
  have hsame : (items.map (Value.rename f)).mapM Value.text? = items.mapM Value.text? := by
    have htext : Value.text? ∘ Value.rename f = Value.text? := funext (Value.text?_rename f)
    rw [List.mapM_map, htext]
  rw [joined, joined, hsame]

theorem itemsOf?_rename (hheap : heap.Mirrors π mirror) {other : Handle}
    (hother : heap.isValid other = true) :
    itemsOf? mirror (π this) (items.map (Value.rename π)) (π other) =
      (itemsOf? heap this items other).map fun items => items.map (Value.rename π) := by
  unfold itemsOf?
  simp only [EmbeddingLike.apply_eq_iff_eq]
  split
  · rfl
  · rw [hheap.get?_eq hother]
    cases heap.get? other with
    | none => rfl
    | some component => cases component <;> rfl

theorem holds_itemsOf? (hheap : heap.Mirrors π mirror) (hitems : ∀ value ∈ items, heap.Holds value)
    {other : Handle} {found : Array Value} (hfound : itemsOf? heap this items other = some found) :
    ∀ value ∈ found, heap.Holds value := by
  unfold itemsOf? at hfound
  split at hfound
  · cases hfound
    exact hitems
  · split at hfound
    · rename_i hget
      cases hfound
      exact Heap.covers_array.mp (hheap.covers hget)
    · cases hfound

theorem agrees_call (hheap : heap.Mirrors π mirror)
    (hitems : ∀ value ∈ items, heap.Holds value)
    (hcall : ∀ value ∈ call.arguments, heap.Holds value) :
    Agrees MethodError.Ordinary (SamePair .array π heap) (ArrayMethod.call heap this items call)
      (ArrayMethod.call mirror (π this) (items.map (Value.rename π)) (call.rename π)) := by
  have hkept : heap.Covers (Component.array items).references := Heap.covers_array.mpr hitems
  unfold ArrayMethod.call perform
  rw [Call.method_rename]
  split <;> simp only [outcome_check, outcome_get, outcome_throw]
  case h_1 =>
    refine .expect (.value hcall fun value hvalue => .ok ⟨?_, ?_, rfl, Heap.holds_invalid⟩)
    · simp [Component.rename]
    · simpa [or_imp, forall_and] using ⟨hitems, hvalue⟩
  case h_2 =>
    refine .expect (.ok ⟨?_, ?_, ?_, ?_⟩)
    · simp [Component.rename]
    · exact Heap.covers_array.mpr fun value hvalue =>
        hitems value (Array.mem_toList_iff.mp
          (List.mem_of_mem_dropLast (Array.mem_toList_iff.mpr hvalue)))
    · rw [Array.back?_map, Value.getD_map_rename]
    · exact Heap.holds_getD fun value hvalue => hitems value (Array.mem_of_back? hvalue)
  case h_3 =>
    refine .expect (.value hcall fun value hvalue => .ok ⟨?_, ?_, rfl, Heap.holds_invalid⟩)
    · simp [Component.rename]
    · simpa [or_imp, forall_and] using ⟨hvalue, hitems⟩
  case h_4 =>
    refine .expect (.ok ⟨?_, ?_, ?_, ?_⟩)
    · simp [Component.rename]
    · refine Heap.covers_array.mpr fun value hvalue => hitems value ?_
      obtain ⟨index, -, rfl⟩ := Array.mem_extract_iff_getElem.mp hvalue
      exact Array.getElem_mem _
    · rw [Array.getElem?_map, Value.getD_map_rename]
    · exact Heap.holds_getD fun value hvalue => hitems value (Array.mem_of_getElem? hvalue)
  case h_5 => exact .expect (.ok ⟨rfl, hkept, by simp, Heap.holds_ofNat⟩)
  case h_6 => exact .expect (.ok ⟨rfl, hkept, by simp [Array.isEmpty], Heap.holds_boolean⟩)
  case h_7 => exact .expect (.ok ⟨by simp [Component.rename], by simp, rfl, Heap.holds_invalid⟩)
  case h_8 =>
    refine .expect (.index fun index => .ok ⟨rfl, hkept, ?_, ?_⟩)
    · cases index with
      | none => rfl
      | some index => simp [Value.getD_map_rename]
    · refine Heap.holds_getD fun value hvalue => ?_
      obtain ⟨index, -, hvalue⟩ := Option.bind_eq_some_iff.mp hvalue
      exact hitems value (Array.mem_of_getElem? hvalue)
  case h_9 =>
    refine .expect (.index fun index => ?_)
    cases index with
    | none => exact .fail
    | some index =>
        simp only [outcome_check, outcome_get, outcome_ite, outcome_modify, Array.size_map]
        refine .value hcall fun value hvalue => ?_
        split
        · refine .ensureItems (.ok ?_)
          rw [filledTo_map _ rfl]
          exact samePair_setIfInBounds (holds_filledTo hitems _) index hvalue
        · exact .ok (samePair_setIfInBounds hitems index hvalue)
  case h_10 =>
    refine .expect (.object hcall fun other hother => ?_)
    rw [itemsOf?_rename hheap hother]
    cases hfound : itemsOf? heap this items other with
    | none => exact .fail
    | some found =>
        simp only [Option.map_some, outcome_get, outcome_check, Array.size_map]
        refine .ensureItems (.ok ⟨?_, ?_, rfl, Heap.holds_invalid⟩)
        · simp [Component.rename]
        · simpa [or_imp, forall_and] using ⟨hitems, holds_itemsOf? hheap hitems hfound⟩
  case h_11 =>
    refine .expect (.ok ⟨?_, ?_, rfl, Heap.holds_invalid⟩)
    · simp [Component.rename]
    · simpa using hitems
  case h_12 =>
    refine .expect (.text fun separator => .ok ⟨rfl, hkept, ?_, Heap.holds_text⟩)
    rw [Array.toList_map, joined_map]
    rfl
  case h_13 => exact .unknown

end ArrayMethod

namespace TableMethod

variable {π : Equiv.Perm Handle} {heap mirror : Heap} {this : Handle} {table : NameMap Value}
  {call : Call}

theorem entry_rename (f : Handle → Handle) (name : String) (value : Value) :
    entry name (value.rename f) = (entry name value).rename f :=
  congrArg Component.table
    (Dictionary.ofList_map (Value.rename f) [("key", .text name), ("value", value)])

theorem covers_entry {name : String} {value : Value} (hvalue : heap.Holds value) :
    heap.Covers (entry name value).references := by
  refine Heap.covers_table.mpr fun other hother => ?_
  have hmem := Dictionary.mem_values_ofList hother
  simp only [List.map_cons, List.map_nil, List.mem_cons, List.not_mem_nil, or_false] at hmem
  rcases hmem with rfl | rfl
  · exact Heap.holds_text
  · exact hvalue

theorem entries_eq_allocAll (heap : Heap) (fields : List (String × Value)) :
    entries heap fields = heap.allocAll (fields.map fun field => entry field.1 field.2) := by
  induction fields generalizing heap with
  | nil => rfl
  | cons field fields ih =>
      simp only [entries, List.map_cons, Heap.allocAll, ih]

theorem agrees_call (hheap : heap.Mirrors π mirror)
    (htable : ∀ value ∈ table.values, heap.Holds value)
    (hcall : ∀ value ∈ call.arguments, heap.Holds value) :
    Agrees MethodError.Ordinary (Effect.MirrorsAfter .table π heap)
      (TableMethod.call heap this table call)
      (TableMethod.call mirror (π this) (table.mapValues (Value.rename π)) (call.rename π)) := by
  have hkept : heap.Covers (Component.table table).references := Heap.covers_table.mpr htable
  have hstate : Component.table (table.mapValues (Value.rename π)) =
      (Component.table table).rename π := rfl
  have hlookup : ∀ name, heap.Holds ((table.get? name).getD .invalid) := fun name =>
    Heap.holds_getD fun value hvalue => htable value (Dictionary.mem_values_of_get? hvalue)
  unfold TableMethod.call perform
  rw [Call.method_rename]
  split <;> simp only [outcome_check, outcome_own, outcome_heap, outcome_modifyOwn,
    outcome_carryOut, outcome_ite, outcome_throw]
  case h_1 =>
    refine .expect (.text fun name => .value hcall fun value hvalue => .ok
      (.quiet hheap ?_ ?_ rfl Heap.holds_invalid))
    · rw [Dictionary.mapValues_insert]
      rfl
    · refine Heap.covers_table.mpr fun other hother => ?_
      rcases Dictionary.mem_values_insert hother with rfl | hother
      · exact hvalue
      · exact htable other hother
  case h_2 | h_3 =>
    refine .expect (.text fun name => .ok (.quiet hheap hstate hkept ?_ (hlookup name)))
    rw [Dictionary.get?_mapValues, Value.getD_map_rename]
  case h_4 =>
    refine .expect (.text fun name => .ok (.quiet hheap hstate hkept ?_ Heap.holds_boolean))
    rw [Dictionary.contains_mapValues, Value.rename_boolean]
  case h_5 =>
    refine .expect (.text fun name => .ok (.quiet hheap ?_ ?_ ?_ Heap.holds_boolean))
    · rw [Dictionary.mapValues_erase]
      rfl
    · exact Heap.covers_table.mpr fun value hvalue =>
        htable value (Dictionary.mem_values_erase hvalue)
    · rw [Dictionary.contains_mapValues, Value.rename_boolean]
  case h_6 =>
    refine .expect (.ok (.quiet hheap hstate hkept ?_ Heap.holds_ofNat))
    rw [Dictionary.size_mapValues, Value.rename_ofNat]
  case h_7 =>
    refine .expect (.ok (.quiet hheap hstate hkept ?_ Heap.holds_boolean))
    rw [Dictionary.isEmpty_mapValues, Value.rename_boolean]
  case h_8 =>
    refine .expect (.ok (.quiet hheap ?_ ?_ rfl Heap.holds_invalid))
    · rfl
    · simp [Dictionary.empty, Dictionary.values]
  case h_9 =>
    refine .expect (.ok (.made hheap hstate hkept ?_ ?_))
    · simp [Component.rename, Function.comp_def]
    · simp
  case h_10 =>
    simp only [entries_eq_allocAll, Dictionary.entries_mapValues, List.map_map]
    refine .expect (.ok (.madeAll hheap hstate hkept ?_ ?_))
    · rw [List.map_map]
      exact List.map_congr_left fun field _ => entry_rename π field.1 field.2
    · intro component hcomponent
      obtain ⟨field, hfield, rfl⟩ := List.mem_map.mp hcomponent
      exact covers_entry (htable field.2 (List.mem_map_of_mem hfield))
  case h_11 =>
    refine .expect (.object hcall fun other hother => ?_)
    simp only [EmbeddingLike.apply_eq_iff_eq]
    split
    · exact .ok (.quiet hheap hstate hkept rfl Heap.holds_invalid)
    · rw [hheap.get?_eq hother]
      cases hget : heap.get? other with
      | none => exact .fail
      | some component =>
          cases component with
          | table added =>
              refine .ok (.quiet hheap ?_ ?_ rfl Heap.holds_invalid)
              · exact congrArg Component.table
                  (Dictionary.insertMany_mapValues _ table added.entries)
              · refine Heap.covers_table.mpr fun value hvalue => ?_
                rcases Dictionary.mem_values_insertMany hvalue with hvalue | hvalue
                · exact htable value hvalue
                · exact Heap.covers_table.mp (hheap.covers hget) value hvalue
          | _ => exact .fail
  case h_12 => exact .unknown

end TableMethod

namespace ListMethod

variable {π : Equiv.Perm Handle} {heap : Heap} {items : List Value} {call : Call}

theorem samePair_cons (hitems : ∀ value ∈ items, heap.Holds value) {value : Value}
    (hvalue : heap.Holds value) :
    SamePair .list π heap (value :: items, .invalid)
      (value.rename π :: items.map (Value.rename π), .invalid) :=
  ⟨rfl, Heap.covers_list.mpr (List.forall_mem_cons.mpr ⟨hvalue, hitems⟩), rfl, Heap.holds_invalid⟩

theorem samePair_concat (hitems : ∀ value ∈ items, heap.Holds value) {value : Value}
    (hvalue : heap.Holds value) :
    SamePair .list π heap (items ++ [value], .invalid)
      (items.map (Value.rename π) ++ [value.rename π], .invalid) := by
  refine ⟨?_, ?_, rfl, Heap.holds_invalid⟩
  · simp [Component.rename]
  · simpa [or_imp, forall_and] using ⟨hitems, hvalue⟩

theorem samePair_item (hitems : ∀ value ∈ items, heap.Holds value) {item item' : Option Value}
    (hsame : item' = item.map (Value.rename π))
    (hitem : ∀ value, item = some value → value ∈ items) :
    SamePair .list π heap (items, item.getD .invalid)
      (items.map (Value.rename π), item'.getD .invalid) := by
  refine ⟨rfl, Heap.covers_list.mpr hitems, ?_, ?_⟩
  · rw [hsame, Value.getD_map_rename]
  · exact Heap.holds_getD fun value hvalue => hitems value (hitem value hvalue)

theorem samePair_tail (hitems : ∀ value ∈ items, heap.Holds value) :
    SamePair .list π heap (items.tail, items.head?.getD .invalid)
      ((items.map (Value.rename π)).tail, (items.map (Value.rename π)).head?.getD .invalid) := by
  obtain ⟨-, -, hsame, hhead⟩ := samePair_item hitems List.head?_map fun _ => List.mem_of_head?
  refine ⟨?_, ?_, hsame, hhead⟩
  · simp [Component.rename]
  · exact Heap.covers_list.mpr fun value hvalue => hitems value (List.mem_of_mem_tail hvalue)

theorem samePair_dropLast (hitems : ∀ value ∈ items, heap.Holds value) :
    SamePair .list π heap (items.dropLast, items.getLast?.getD .invalid)
      ((items.map (Value.rename π)).dropLast,
        (items.map (Value.rename π)).getLast?.getD .invalid) := by
  obtain ⟨-, -, hsame, hlast⟩ :=
    samePair_item hitems List.getLast?_map fun _ => List.mem_of_getLast?
  refine ⟨?_, ?_, hsame, hlast⟩
  · simp [Component.rename]
  · exact Heap.covers_list.mpr fun value hvalue => hitems value (List.mem_of_mem_dropLast hvalue)

theorem agrees_call (hitems : ∀ value ∈ items, heap.Holds value)
    (hcall : ∀ value ∈ call.arguments, heap.Holds value) :
    Agrees MethodError.Ordinary (SamePair .list π heap) (ListMethod.call items call)
      (ListMethod.call (items.map (Value.rename π)) (call.rename π)) := by
  have hkept : heap.Covers (Component.list items).references := Heap.covers_list.mpr hitems
  unfold ListMethod.call perform
  rw [Call.method_rename]
  split <;> simp only [outcome_check, outcome_throw]
  case h_1 | h_2 =>
    exact .expect (.value hcall fun value hvalue => .ok (samePair_cons hitems hvalue))
  case h_3 | h_4 =>
    exact .expect (.value hcall fun value hvalue => .ok (samePair_concat hitems hvalue))
  case h_5 | h_6 => exact .expect (.ok (samePair_tail hitems))
  case h_7 | h_8 => exact .expect (.ok (samePair_dropLast hitems))
  case h_9 =>
    exact .expect (.ok (samePair_item hitems List.head?_map fun _ => List.mem_of_head?))
  case h_10 =>
    exact .expect (.ok (samePair_item hitems List.getLast?_map fun _ => List.mem_of_getLast?))
  case h_11 =>
    refine .expect (.index fun index => .ok (samePair_item hitems ?_ fun value hvalue => ?_))
    · cases index with
      | none => rfl
      | some index => exact List.getElem?_map
    · obtain ⟨index, -, hvalue⟩ := Option.bind_eq_some_iff.mp hvalue
      exact List.mem_of_getElem? hvalue
  case h_12 => exact .expect (.ok ⟨rfl, hkept, by simp, Heap.holds_ofNat⟩)
  case h_13 => exact .expect (.ok ⟨rfl, hkept, by simp, Heap.holds_boolean⟩)
  case h_14 => exact .expect (.ok ⟨rfl, Heap.covers_nil, rfl, Heap.holds_invalid⟩)
  case h_15 => exact .unknown

end ListMethod

end BrightScript
