import BrightScript.Proofs.Heap.All
import BrightScript.Proofs.Method.Failure
import BrightScript.Proofs.Method.Footprint

namespace BrightScript

/-- How many items a collection holds; components of other kinds hold none. -/
def Component.itemCount : Component → Nat
  | .array items => items.size
  | .list items => items.length
  | .elementList elements => elements.length
  | _ => 0

def Component.WithinLimit (component : Component) : Prop := component.itemCount ≤ maxItems

theorem Component.withinLimit_array {items : List Value} :
    (Component.array items.toArray).WithinLimit ↔ items.length ≤ maxItems :=
  Iff.rfl

theorem Component.withinLimit_elementList {elements : List Handle} :
    (Component.elementList elements).WithinLimit ↔ elements.length ≤ maxItems :=
  Iff.rfl

/-- The sizes of the collections that a call of a method of an array fills without a check. -/
def ArrayMethod.fills (items : Array Value) (call : Call) : List Nat :=
  match call.method with
  | "push" | "unshift" => [items.size + 1]
  | _ => []

def ListMethod.fills (items : List Value) (call : Call) : List Nat :=
  match call.method with
  | "addhead" | "unshift" | "addtail" | "push" => [items.length + 1]
  | _ => []

def TableMethod.fills (entries : NameMap Value) (call : Call) : List Nat :=
  match call.method with
  | "keys" | "items" => [entries.size]
  | _ => []

def RegexMethod.fills (regex : Regex) (call : Call) : List Nat :=
  match call.method, call.text 0 with
  | "match", .ok text => [(regex.pattern.firstMatch text).length]
  | "matchall", .ok text =>
    (regex.pattern.allMatches text).length :: (regex.pattern.allMatches text).map List.length
  | "split", .ok text => [(regex.pattern.split text).length]
  | _, _ => []

def ElementMethod.fills (heap : Heap) (element : XmlElement) (call : Call) : List Nat :=
  match call.method, call.text 0 with
  | "getbody", _ | "getchildelements", _ => [element.children.length]
  | "getnamedelements", .ok name | "getnamedelementsci", .ok name =>
    let ignoreCase := call.method == "getnamedelementsci"
    [(Xml.named heap name ignoreCase element.children).length]
  | _, _ => []

def ElementListMethod.fills (heap : Heap) (elements : List Handle) (call : Call) : List Nat :=
  match call.method, call.text 0 with
  | "push", _ | "addtail", _ => [elements.length + 1]
  | "getnamedelements", .ok name | "getnamedelementsci", .ok name =>
    let ignoreCase := call.method == "getnamedelementsci"
    [(Xml.named heap name ignoreCase (grandchildren heap elements)).length]
  | _, _ => []

def NodeMethod.fills (node : Node) (call : Call) : List Nat :=
  match call.method, call.index 0, call.length 1 with
  | "getchildren", .ok limit, .ok start => [(selectChildren node limit start).length]
  | _, _, _ => []

/-- The sizes of the collections that a call fills without a check: the one that it adds an item to,
or those that it makes. -/
def Component.fills (heap : Heap) (call : Call) : Component → List Nat
  | .array items => ArrayMethod.fills items call
  | .list items => ListMethod.fills items call
  | .table entries => TableMethod.fills entries call
  | .regex data => RegexMethod.fills data call
  | .element data => ElementMethod.fills heap data call
  | .elementList elements => ElementListMethod.fills heap elements call
  | .node data => NodeMethod.fills data call
  | .timespan _ | .text _ | .host _ => []

/-- All sizes are within the limit. -/
def HaveRoom (counts : List Nat) : Prop := ∀ count ∈ counts, count ≤ maxItems

open Procedure

variable {heap : Heap} {this : Handle} {call : Call}

theorem Call.ensureItems_eq_ok_iff {count : Nat} {checked : Unit} :
    call.ensureItems count = .ok checked ↔ count ≤ maxItems := by
  unfold Call.ensureItems
  split
  · next hmore => exact iff_of_false nofun (Nat.not_le_of_gt hmore)
  · next hleast => exact iff_of_true rfl (Nat.le_of_not_gt hleast)

theorem ArrayMethod.size_filledTo (items : Array Value) (count : Nat) :
    (filledTo items count).size = max items.size count := by
  rw [filledTo, Array.size_append, Array.size_replicate]
  omega

theorem ArrayMethod.size_le_of_call {items : Array Value} {left : Array Value × Value}
    (hitems : items.size ≤ maxItems) (hroom : HaveRoom (fills items call))
    (hcall : ArrayMethod.call heap this items call = .ok left) : left.1.size ≤ maxItems := by
  unfold ArrayMethod.call perform at hcall
  split at hcall <;> simp only [outcome_check, outcome_throw, bind_eq_ok_iff, reduceCtorEq] at hcall
  case h_1 _ hmethod =>
    obtain ⟨-, -, value, -, hleft⟩ := hcall
    obtain rfl := Except.ok.inj hleft
    rw [Array.size_push]
    exact hroom _ (by simp [fills, hmethod])
  case h_3 _ hmethod =>
    obtain ⟨-, -, value, -, hleft⟩ := hcall
    obtain rfl := Except.ok.inj hleft
    rw [Array.size_append, Nat.add_comm]
    exact hroom _ (by simp [fills, hmethod])
  case h_9 =>
    obtain ⟨-, -, position, -, hset⟩ := hcall
    cases position with
    | none => cases hset
    | some index =>
        simp only [outcome_check, outcome_get, bind_eq_ok_iff] at hset
        obtain ⟨value, -, hset⟩ := hset
        split at hset
        · simp only [outcome_check, bind_eq_ok_iff] at hset
          obtain ⟨_, hlimit, hleft⟩ := hset
          obtain rfl := Except.ok.inj hleft
          rw [Array.size_setIfInBounds, size_filledTo]
          exact max_le hitems (Call.ensureItems_eq_ok_iff.mp hlimit)
        · obtain rfl := Except.ok.inj hset
          rwa [Array.size_setIfInBounds]
  case h_10 =>
    obtain ⟨-, -, hset⟩ := hcall
    simp only [outcome_get, outcome_check, bind_eq_ok_iff] at hset
    obtain ⟨other, -, hset⟩ := hset
    split at hset
    · cases hset
    · simp only [outcome_get, outcome_check, bind_eq_ok_iff] at hset
      obtain ⟨_, hlimit, hleft⟩ := hset
      obtain rfl := Except.ok.inj hleft
      rw [Array.size_append]
      exact Call.ensureItems_eq_ok_iff.mp hlimit
  all_goals grind

theorem ListMethod.length_le_of_call {items : List Value} {left : List Value × Value}
    (hitems : items.length ≤ maxItems) (hroom : HaveRoom (fills items call))
    (hcall : ListMethod.call items call = .ok left) : left.1.length ≤ maxItems := by
  unfold ListMethod.call perform at hcall
  split at hcall <;> simp only [outcome_check, outcome_throw, bind_eq_ok_iff, reduceCtorEq] at hcall
  case h_1 _ hmethod | h_2 _ hmethod | h_3 _ hmethod | h_4 _ hmethod =>
    have hmore : items.length + 1 ≤ maxItems := hroom _ (by simp [fills, hmethod])
    obtain ⟨-, -, value, -, hleft⟩ := hcall
    obtain rfl := Except.ok.inj hleft
    simpa using hmore
  all_goals grind

theorem Effect.all_made {α : Type} (state : α) {component : Component}
    (hheap : heap.All Component.WithinLimit) (hcomponent : component.WithinLimit) :
    (Effect.made state heap component).heap.All Component.WithinLimit :=
  hheap.alloc hcomponent

theorem Effect.all_of_make {ε σ : Type} {state : σ} {component : Component} {effect : Effect σ}
    (hheap : heap.All Component.WithinLimit)
    (hmade : (outcome Receiver.effect (make component) ⟨state, heap, []⟩ : Except ε _) =
      .ok effect)
    (hcomponent : component.WithinLimit) : effect.heap.All Component.WithinLimit := by
  rw [outcome_make] at hmade
  obtain rfl := Except.ok.inj hmade
  exact all_made state hheap hcomponent

theorem TableMethod.all_entries (hheap : heap.All Component.WithinLimit)
    (fields : List (String × Value)) : (entries heap fields).2.All Component.WithinLimit := by
  induction fields generalizing heap with
  | nil => exact hheap
  | cons field fields ih => exact ih (hheap.alloc (Nat.zero_le _))

theorem TableMethod.length_entries (heap : Heap) (fields : List (String × Value)) :
    (entries heap fields).1.length = fields.length := by
  induction fields generalizing heap with
  | nil => rfl
  | cons field fields ih => exact congrArg (· + 1) (ih _)

theorem TableMethod.all_of_call {table : NameMap Value} {effect : Effect (NameMap Value)}
    (hheap : heap.All Component.WithinLimit) (hroom : HaveRoom (fills table call))
    (hcall : TableMethod.call heap this table call = .ok effect) :
    effect.heap.All Component.WithinLimit := by
  unfold TableMethod.call perform at hcall
  split at hcall <;> simp only [outcome_check, outcome_throw, bind_eq_ok_iff, reduceCtorEq] at hcall
  case h_9 _ hmethod =>
    obtain ⟨-, -, hmade⟩ := hcall
    have hcount : table.size ≤ maxItems := hroom _ (by simp [fills, hmethod])
    rw [outcome_own] at hmade
    refine Effect.all_of_make hheap hmade (Component.withinLimit_array.mpr ?_)
    rwa [List.length_map, Dictionary.names, List.length_map]
  case h_10 _ hmethod =>
    obtain ⟨-, -, hmade⟩ := hcall
    have hcount : table.size ≤ maxItems := hroom _ (by simp [fills, hmethod])
    simp only [outcome_carryOut] at hmade
    obtain rfl := Except.ok.inj hmade
    refine Effect.all_made _ (all_entries hheap table.entries)
      (Component.withinLimit_array.mpr ?_)
    rwa [length_entries]
  all_goals grind

theorem RegexMethod.all_textArrays (hheap : heap.All Component.WithinLimit)
    {texts : List (List String)} (htexts : HaveRoom (texts.map List.length)) :
    (textArrays heap texts).2.All Component.WithinLimit := by
  induction texts generalizing heap with
  | nil => exact hheap
  | cons first rest ih =>
      obtain ⟨hfirst, hrest⟩ := List.forall_mem_cons.mp htexts
      refine ih (hheap.alloc (Component.withinLimit_array.mpr ?_)) hrest
      rwa [List.length_map]

theorem RegexMethod.length_textArrays (heap : Heap) (texts : List (List String)) :
    (textArrays heap texts).1.length = texts.length := by
  induction texts generalizing heap with
  | nil => rfl
  | cons first rest ih => exact congrArg (· + 1) (ih _)

theorem RegexMethod.withinLimit_textArray {texts : List String} :
    (textArray texts).WithinLimit ↔ texts.length ≤ maxItems := by
  rw [textArray, Component.withinLimit_array, List.length_map]

theorem RegexMethod.all_of_call {regex : Regex} {effect : Effect Regex}
    (hheap : heap.All Component.WithinLimit) (hroom : HaveRoom (fills regex call))
    (hcall : RegexMethod.call heap regex call = .ok effect) :
    effect.heap.All Component.WithinLimit := by
  unfold RegexMethod.call perform at hcall
  split at hcall <;> simp only [outcome_check, outcome_throw, bind_eq_ok_iff, reduceCtorEq] at hcall
  case h_2 _ hmethod =>
    obtain ⟨-, -, text, htext, hmade⟩ := hcall
    rw [outcome_own] at hmade
    refine Effect.all_of_make hheap hmade (withinLimit_textArray.mpr (hroom _ ?_))
    simp [fills, hmethod, htext]
  case h_3 _ hmethod =>
    obtain ⟨-, -, text, htext, hmade⟩ := hcall
    have hcounts : HaveRoom ((regex.pattern.allMatches text).length ::
        (regex.pattern.allMatches text).map List.length) := by
      simpa only [fills, hmethod, htext] using hroom
    obtain ⟨hcount, hinner⟩ := List.forall_mem_cons.mp hcounts
    simp only [outcome_carryOut] at hmade
    obtain rfl := Except.ok.inj hmade
    refine Effect.all_made _ (all_textArrays hheap hinner) (Component.withinLimit_array.mpr ?_)
    rwa [length_textArrays]
  case h_6 _ hmethod =>
    obtain ⟨-, -, text, htext, hmade⟩ := hcall
    rw [outcome_own] at hmade
    refine Effect.all_of_make hheap hmade (withinLimit_textArray.mpr (hroom _ ?_))
    simp [fills, hmethod, htext]
  all_goals grind

theorem ElementMethod.all_of_call {element : XmlElement} {effect : Effect XmlElement}
    (hheap : heap.All Component.WithinLimit) (hroom : HaveRoom (fills heap element call))
    (hcall : ElementMethod.call heap this element call = .ok effect) :
    effect.heap.All Component.WithinLimit := by
  unfold ElementMethod.call perform at hcall
  split at hcall <;> simp only [outcome_check, outcome_throw, bind_eq_ok_iff, reduceCtorEq] at hcall
  case h_7 _ hmethod | h_11 _ hmethod =>
    obtain ⟨-, -, hbody⟩ := hcall
    cases hchildren : element.body with
    | elements children =>
        simp only [outcome_own, hchildren] at hbody
        refine Effect.all_of_make hheap hbody
          (Component.withinLimit_elementList.mpr (hroom _ ?_))
        simp [fills, hmethod, XmlElement.children, hchildren]
    | _ =>
        simp only [outcome_own, hchildren, outcome_pure] at hbody
        obtain rfl := Except.ok.inj hbody
        exact hheap
  case h_12 _ hmethod | h_13 _ hmethod =>
    obtain ⟨-, -, name, hname, hmade⟩ := hcall
    rw [outcome_heap, outcome_own] at hmade
    refine Effect.all_of_make hheap hmade (Component.withinLimit_elementList.mpr (hroom _ ?_))
    simp [fills, hmethod, hname]
  case h_5 =>
    obtain ⟨-, -, hmade⟩ := hcall
    rw [outcome_own] at hmade
    exact Effect.all_of_make hheap hmade (Nat.zero_le _)
  case h_9 =>
    obtain ⟨-, -, name, -, hadded⟩ := hcall
    obtain rfl := Except.ok.inj hadded
    exact hheap.alloc (Nat.zero_le _)
  case h_10 =>
    obtain ⟨-, -, name, -, body, -, hadded⟩ := hcall
    obtain rfl := Except.ok.inj hadded
    exact hheap.alloc (Nat.zero_le _)
  all_goals grind [bind_eq_ok_iff]

theorem ElementListMethod.all_of_call {elements : List Handle} {effect : Effect (List Handle)}
    (hheap : heap.All Component.WithinLimit) (hroom : HaveRoom (fills heap elements call))
    (hcall : ElementListMethod.call heap elements call = .ok effect) :
    effect.heap.All Component.WithinLimit := by
  unfold ElementListMethod.call perform at hcall
  split at hcall <;> simp only [outcome_check, outcome_throw, bind_eq_ok_iff, reduceCtorEq] at hcall
  case h_8 _ hmethod | h_9 _ hmethod =>
    obtain ⟨-, -, name, hname, hmade⟩ := hcall
    rw [outcome_heap, outcome_own] at hmade
    refine Effect.all_of_make hheap hmade (Component.withinLimit_elementList.mpr (hroom _ ?_))
    simp [fills, hmethod, hname]
  all_goals grind

theorem ElementListMethod.length_le_of_call {elements : List Handle}
    {effect : Effect (List Handle)} (helements : elements.length ≤ maxItems)
    (hroom : HaveRoom (fills heap elements call))
    (hcall : ElementListMethod.call heap elements call = .ok effect) :
    effect.state.length ≤ maxItems := by
  unfold ElementListMethod.call perform at hcall
  split at hcall <;> simp only [outcome_check, outcome_throw, bind_eq_ok_iff, reduceCtorEq] at hcall
  case h_3 _ hmethod | h_4 _ hmethod =>
    have hmore : elements.length + 1 ≤ maxItems := hroom _ (by simp [fills, hmethod])
    obtain ⟨-, -, handle, -, hadded⟩ := hcall
    simp only [outcome_heap] at hadded
    split at hadded
    · obtain rfl := Except.ok.inj hadded
      simpa using hmore
    · cases hadded
  all_goals grind [Effect.made]

theorem Node.all_adopt (hheap : heap.All Component.WithinLimit) (this : Handle) (node : Node)
    (child : Handle) (parent : Option Handle) :
    (Node.adopt heap this node child parent).2.All Component.WithinLimit := by
  unfold Node.adopt
  refine Heap.All.modifyNode ?_ child fun _ _ => Nat.zero_le _
  split
  · split
    · exact hheap
    · exact hheap.modifyNode _ fun _ _ => Nat.zero_le _
  · exact hheap

theorem Node.all_of_appendChild {node : Node} {child : Handle} {effect : Effect Node}
    (hheap : heap.All Component.WithinLimit)
    (happend : node.appendChild heap this child = .ok effect) :
    effect.heap.All Component.WithinLimit := by
  rcases Node.heap_of_appendChild happend with hsame | ⟨childNode, -, hmoved⟩
  · rwa [hsame]
  · rw [hmoved]
    exact Node.all_adopt hheap this node child childNode.parent

theorem Node.all_removeChild (hheap : heap.All Component.WithinLimit) (node : Node)
    (child : Handle) : (node.removeChild heap child).heap.All Component.WithinLimit := by
  unfold Node.removeChild
  split
  · exact hheap.modifyNode _ fun _ _ => Nat.zero_le _
  · exact hheap

theorem NodeMethod.all_of_createChild {catalog : NodeCatalog} {node : Node} {kind : String}
    {effect : Effect Node} (hheap : heap.All Component.WithinLimit)
    (hcreate : createChild heap catalog this node kind = .ok effect) :
    effect.heap.All Component.WithinLimit := by
  cases hdraft : catalog.draft kind with
  | error e =>
      rw [createChild_of_error hdraft] at hcreate
      obtain rfl := Except.ok.inj hcreate
      exact hheap
  | ok draft =>
      have hlarger : (heap.alloc (.node draft.node)).2.All Component.WithinLimit :=
        hheap.alloc (Nat.zero_le _)
      rcases halloc : heap.alloc (.node draft.node) with ⟨child, larger⟩
      rw [halloc] at hlarger
      rw [createChild_of_draft hdraft halloc] at hcreate
      obtain ⟨appended, happend, rfl⟩ := map_eq_ok_iff.mp hcreate
      have hall := Node.all_of_appendChild hlarger happend
      exact hall

theorem NodeMethod.all_of_call {catalog : NodeCatalog} {node : Node} {effect : Effect Node}
    (hheap : heap.All Component.WithinLimit) (hroom : HaveRoom (fills node call))
    (hcall : NodeMethod.call heap catalog this node call = .ok effect) :
    effect.heap.All Component.WithinLimit := by
  unfold NodeMethod.call perform at hcall
  split at hcall <;> simp only [outcome_check, outcome_adaptExcept, outcome_throw,
    Node.outcome_append, outcome_create, bind_eq_ok_iff, mapError_eq_ok_iff, reduceCtorEq] at hcall
  case h_8 =>
    obtain ⟨-, -, hmade⟩ := hcall
    rw [outcome_own] at hmade
    exact Effect.all_of_make hheap hmade (Nat.zero_le _)
  case h_11 =>
    obtain ⟨-, -, child, -, happend⟩ := hcall
    exact Node.all_of_appendChild hheap happend
  case h_12 =>
    obtain ⟨-, -, kind, -, hcreate⟩ := hcall
    exact all_of_createChild hheap hcreate
  case h_13 =>
    obtain ⟨-, -, child, -, hremove⟩ := hcall
    obtain rfl := Except.ok.inj hremove
    exact Node.all_removeChild hheap node child
  case h_16 _ hmethod =>
    obtain ⟨-, -, limit, hlimit, start, hstart, hmade⟩ := hcall
    rw [outcome_own] at hmade
    refine Effect.all_of_make hheap hmade (Component.withinLimit_array.mpr ?_)
    rw [List.length_map]
    exact hroom _ (by simp [fills, hmethod, hlimit, hstart])
  all_goals grind [bind_eq_ok_iff]

/-- A call that has room for what it fills keeps all collections within the limit. -/
theorem Component.within_of_call {catalog : NodeCatalog} {component : Component}
    {effect : Effect Component} (hheap : heap.All WithinLimit) (hcomponent : component.WithinLimit)
    (hroom : HaveRoom (component.fills heap call))
    (hcall : component.call heap catalog this call = .ok effect) :
    effect.state.WithinLimit ∧ effect.heap.All WithinLimit := by
  cases component with
  | host object => cases hcall
  | array items =>
      rw [call_array] at hcall
      obtain ⟨left, hown, rfl⟩ := map_eq_ok_iff.mp hcall
      exact ⟨ArrayMethod.size_le_of_call hcomponent hroom hown, hheap⟩
  | table entries =>
      rw [call_table] at hcall
      obtain ⟨left, hown, rfl⟩ := map_eq_ok_iff.mp hcall
      exact ⟨Nat.zero_le _, TableMethod.all_of_call hheap hroom hown⟩
  | list items =>
      rw [call_list] at hcall
      obtain ⟨left, hown, rfl⟩ := map_eq_ok_iff.mp hcall
      exact ⟨ListMethod.length_le_of_call hcomponent hroom hown, hheap⟩
  | timespan start =>
      rw [call_timespan] at hcall
      obtain ⟨left, hown, rfl⟩ := map_eq_ok_iff.mp hcall
      exact ⟨Nat.zero_le _, hheap⟩
  | regex data =>
      rw [call_regex] at hcall
      obtain ⟨left, hown, rfl⟩ := map_eq_ok_iff.mp hcall
      exact ⟨Nat.zero_le _, RegexMethod.all_of_call hheap hroom hown⟩
  | text value =>
      rw [call_text] at hcall
      obtain ⟨left, hown, rfl⟩ := map_eq_ok_iff.mp hcall
      exact ⟨Nat.zero_le _, hheap⟩
  | element data =>
      rw [call_element] at hcall
      obtain ⟨left, hown, rfl⟩ := map_eq_ok_iff.mp hcall
      exact ⟨Nat.zero_le _, ElementMethod.all_of_call hheap hroom hown⟩
  | elementList elements =>
      rw [call_elementList] at hcall
      obtain ⟨left, hown, rfl⟩ := map_eq_ok_iff.mp hcall
      exact ⟨ElementListMethod.length_le_of_call hcomponent hroom hown,
        ElementListMethod.all_of_call hheap hroom hown⟩
  | node data =>
      rw [call_node] at hcall
      obtain ⟨left, hown, rfl⟩ := map_eq_ok_iff.mp hcall
      exact ⟨Nat.zero_le _, NodeMethod.all_of_call hheap hroom hown⟩

namespace Heap

variable {catalog : NodeCatalog} {method : String} {arguments : List Value}

/-- There is room for what a call fills without a check, unless the call fails. -/
def HasRoom (heap : Heap) (catalog : NodeCatalog) (this : Handle) (method : String)
    (arguments : List Value) : Prop :=
  ∀ component value, heap.get? this = some component →
    (heap.callMethod catalog this method arguments).result = .ok value →
      HaveRoom (component.fills (heap.lend this) ⟨Name.key method, arguments⟩)

theorem All.callMethod (hheap : heap.All Component.WithinLimit)
    (hroom : heap.HasRoom catalog this method arguments) :
    (heap.callMethod catalog this method arguments).heap.All Component.WithinLimit := by
  cases hget : heap.get? this with
  | none => rwa [callMethod_of_none hget]
  | some component =>
      have hcomponent := all_iff.mp hheap this component hget
      cases hcall : component.call (heap.lend this) catalog this ⟨Name.key method, arguments⟩ with
      | ok effect =>
          have hcalled : heap.callMethod catalog this method arguments = _ :=
            callMethod_of_ok hget hcall
          obtain ⟨hstate, hafter⟩ := Component.within_of_call (hheap.lend this) hcomponent
            (hroom component effect.value hget (congrArg CallResult.result hcalled)) hcall
          rw [hcalled]
          exact hafter.restore this hstate
      | error e => rwa [callMethod_of_error hget hcall]

/-- What method calls make of a heap, where each has room for what it fills without a check. -/
inductive CalledWithRoom (start : Heap) : Heap → Prop
  | start : CalledWithRoom start start
  | call {heap : Heap} (hheap : CalledWithRoom start heap) (catalog : NodeCatalog)
      (this : Handle) (method : String) (arguments : List Value)
      (hroom : heap.HasRoom catalog this method arguments) :
      CalledWithRoom start (heap.callMethod catalog this method arguments).heap
  | atTime {heap : Heap} (hheap : CalledWithRoom start heap) (time : Nat) :
      CalledWithRoom start (heap.atTime time)

theorem CalledWithRoom.all {start : Heap} (hcalled : start.CalledWithRoom heap)
    (hstart : start.All Component.WithinLimit) : heap.All Component.WithinLimit := by
  induction hcalled with
  | start => exact hstart
  | call _ catalog this method arguments hroom ih => exact ih.callMethod hroom
  | atTime _ time ih => exact ih

theorem callMethod_array_of_ok {items after : Array Value} {value : Value}
    (hget : heap.get? this = some (.array items))
    (hcall : ArrayMethod.call (heap.lend this) this items ⟨Name.key method, arguments⟩ =
      .ok (after, value)) :
    (heap.callMethod catalog this method arguments).result = .ok value ∧
      (heap.callMethod catalog this method arguments).heap.get? this = some (.array after) := by
  have hown : (Component.array items).call (heap.lend this) catalog this
      ⟨Name.key method, arguments⟩ = .ok ⟨.array after, heap.lend this, value, []⟩ := by
    rw [Component.call_array, hcall]
    rfl
  have hvalid : (heap.lend this).isValid this = true := by
    rw [isValid_lend]
    exact isValid_of_get? hget
  rw [callMethod_of_ok hget hown]
  refine ⟨rfl, ?_⟩
  rw [get?_restore hvalid (get?_lend_self heap this), if_pos rfl]

theorem callMethod_array_of_error {items : Array Value} {e : MethodError}
    (hget : heap.get? this = some (.array items))
    (hcall : ArrayMethod.call (heap.lend this) this items ⟨Name.key method, arguments⟩ =
      .error e) :
    heap.callMethod catalog this method arguments = ⟨.error e, heap, []⟩ := by
  refine callMethod_of_error hget ?_
  rw [Component.call_array, hcall]
  rfl

end Heap

/-- What a call says that asks for too many items. -/
def MethodError.tooMany (method : String) (count : Nat) : MethodError :=
  .failed method (toString count ++ " items exceeds the limit of " ++ toString maxItems)

theorem Call.ensureItems_of_lt {count : Nat} (hmany : maxItems < count) :
    call.ensureItems count = .error (.tooMany call.method count) :=
  if_pos hmany

namespace ArrayMethod

variable {items : Array Value} {position value : Value} {index : Nat}

theorem call_setEntry (hindex : Call.index ⟨"setentry", [position, value]⟩ 0 = .ok (some index))
    (hbeyond : items.size ≤ index) (hleast : index < maxItems) :
    ArrayMethod.call heap this items ⟨"setentry", [position, value]⟩ =
      .ok ((filledTo items (index + 1)).setIfInBounds index value, .invalid) := by
  unfold ArrayMethod.call perform
  simp only [outcome_check, bind_eq_ok_iff]
  refine ⟨⟨⟩, rfl, some index, hindex, ?_⟩
  simp only [outcome_check, outcome_get, bind_eq_ok_iff]
  refine ⟨value, rfl, ?_⟩
  rw [if_pos hbeyond]
  simp only [outcome_check, bind_eq_ok_iff]
  exact ⟨⟨⟩, Call.ensureItems_eq_ok_iff.mpr hleast, rfl⟩

theorem call_setEntry_of_le
    (hindex : Call.index ⟨"setentry", [position, value]⟩ 0 = .ok (some index))
    (hbeyond : items.size ≤ index) (hmany : maxItems ≤ index) :
    ArrayMethod.call heap this items ⟨"setentry", [position, value]⟩ =
      .error (.tooMany "setentry" (index + 1)) := by
  unfold ArrayMethod.call perform
  simp only [outcome_check, bind_eq_error_iff]
  refine .inr ⟨⟨⟩, rfl, .inr ⟨some index, hindex, ?_⟩⟩
  simp only [outcome_check, outcome_get, bind_eq_error_iff]
  refine .inr ⟨value, rfl, ?_⟩
  rw [if_pos hbeyond]
  simp only [outcome_check, bind_eq_error_iff]
  exact .inl (Call.ensureItems_of_lt (Nat.lt_succ_of_le hmany))

theorem call_append_of_lt {other : Handle} {added : Array Value}
    (hadded : itemsOf? heap this items other = some added)
    (hmany : maxItems < items.size + added.size) :
    ArrayMethod.call heap this items ⟨"append", [.object other]⟩ =
      .error (.tooMany "append" (items.size + added.size)) := by
  unfold ArrayMethod.call perform
  simp only [outcome_check, bind_eq_error_iff]
  refine .inr ⟨⟨⟩, rfl, ?_⟩
  simp only [outcome_check, outcome_get, bind_eq_error_iff]
  refine .inr ⟨other, rfl, ?_⟩
  rw [hadded]
  simp only [outcome_check, outcome_get, bind_eq_error_iff]
  exact .inl (Call.ensureItems_of_lt hmany)

theorem call_push (heap : Heap) (this : Handle) (items : Array Value) (value : Value) :
    ArrayMethod.call heap this items ⟨"push", [value]⟩ = .ok (items.push value, .invalid) :=
  rfl

end ArrayMethod

namespace Heap

/-- No collection holds more items than the limit, and an array refuses what would make it. -/
structure Limited (heap : Heap) : Prop where
  within : ∀ handle component, heap.get? handle = some component → component.itemCount ≤ maxItems
  setEntry_refused : ∀ {catalog this items method position value index},
    heap.get? this = some (.array items) → Name.key method = "setentry" →
    Call.index ⟨"setentry", [position, value]⟩ 0 = .ok (some index) → maxItems ≤ index →
      heap.callMethod catalog this method [position, value] =
        ⟨.error (.tooMany "setentry" (index + 1)), heap, []⟩
  append_refused : ∀ {catalog this items method other added},
    heap.get? this = some (.array items) → Name.key method = "append" →
    ArrayMethod.itemsOf? (heap.lend this) this items other = some added →
    maxItems < items.size + added.size →
      heap.callMethod catalog this method [.object other] =
        ⟨.error (.tooMany "append" (items.size + added.size)), heap, []⟩

theorem All.limited (hheap : heap.All Component.WithinLimit) : heap.Limited := by
  constructor
  case within => exact all_iff.mp hheap
  case setEntry_refused =>
    intro catalog this items method position value index hget hmethod hindex hmany
    refine callMethod_array_of_error hget ?_
    have hitems : items.size ≤ maxItems := all_iff.mp hheap this _ hget
    rw [hmethod]
    exact ArrayMethod.call_setEntry_of_le hindex (hitems.trans hmany) hmany
  case append_refused =>
    intro catalog this items method other added hget hmethod hadded hmany
    refine callMethod_array_of_error hget ?_
    rw [hmethod]
    exact ArrayMethod.call_append_of_lt hadded hmany

/-- From empty collections on, whatever methods are called, no collection outgrows the limit as long
as there is room for what the methods that do not check fill. -/
theorem limited_after_calls {start : Heap}
    (hstart : ∀ handle component, start.get? handle = some component → component.itemCount = 0)
    (hcalled : start.CalledWithRoom heap) : heap.Limited := by
  have hempty : start.All Component.WithinLimit := all_iff.mpr fun handle component hget =>
    (hstart handle component hget).trans_le (Nat.zero_le maxItems)
  exact (hcalled.all hempty).limited

/-- A new array, and a value added to it. -/
theorem limited_after_calls_of_push :
    let start := ((Heap.empty ⟨0⟩).alloc (.array #[])).2
    (start.callMethod .empty ⟨⟨0⟩, 0, 0⟩ "Push" [.integer 7]).heap.Limited := by
  intro start
  have hstart : start.All fun component => component.itemCount = 0 :=
    All.alloc (fun _ hslot => absurd hslot (Array.not_mem_empty _)) rfl
  have hmethod : Name.key "Push" = "push" := by simp [Name.key_eq_iff]
  have hroom : start.HasRoom .empty ⟨⟨0⟩, 0, 0⟩ "Push" [.integer 7] := by
    intro component _ hget _ count hcount
    obtain rfl : Component.array #[] = component := Option.some.inj hget
    rw [hmethod] at hcount
    obtain rfl := List.mem_singleton.mp hcount
    exact Nat.succ_le_of_lt (Nat.pos_of_ne_zero (by decide))
  exact limited_after_calls (all_iff.mp hstart) (.call .start .empty _ _ _ hroom)

/-- A value can be added to an array that is full. -/
theorem push_beyond_limit :
    let start := ((Heap.empty ⟨0⟩).alloc (.array #[])).2
    let this : Handle := ⟨⟨0⟩, 0, 0⟩
    let filled := start.callMethod .empty this "SetEntry" [.integer 4194303, .integer 0]
    let pushed := filled.heap.callMethod .empty this "Push" [.integer 1]
    filled.result = .ok .invalid ∧ pushed.result = .ok .invalid ∧
      ∃ items, pushed.heap.get? this = some (.array items) ∧ items.size = maxItems + 1 := by
  intro start this filled pushed
  have hstart : start.get? this = some (.array #[]) := rfl
  have hsetEntry : Name.key "SetEntry" = "setentry" := by simp [Name.key_eq_iff]
  have hpush : Name.key "Push" = "push" := by simp [Name.key_eq_iff]
  have hindex : Call.index ⟨"setentry", [.integer 4194303, .integer 0]⟩ 0 =
      .ok (some 4194303) := by rfl
  have hfilled : filled.result = .ok .invalid ∧ filled.heap.get? this = some (.array _) :=
    callMethod_array_of_ok hstart
      (hsetEntry ▸ ArrayMethod.call_setEntry hindex (Nat.zero_le _) (by decide))
  have hpushed : pushed.result = .ok .invalid ∧ pushed.heap.get? this = some (.array _) :=
    callMethod_array_of_ok hfilled.2 (hpush ▸ ArrayMethod.call_push _ _ _ (.integer 1))
  refine ⟨hfilled.1, hpushed.1, _, hpushed.2, ?_⟩
  rw [Array.size_push, Array.size_setIfInBounds, ArrayMethod.size_filledTo]
  rfl

end Heap

end BrightScript
