import BrightScript.Method.Dispatch
import BrightScript.Proofs.Heap.Slots

/-!
A method that fails has changed nothing. Methods work on their component and on the heap in place,
so this is a matter of order: each checks all that can go wrong before its first change.
-/

namespace BrightScript

namespace Procedure

variable {ε σ τ α β : Type}

/-- Where the computation fails, it has changed nothing. -/
def Clean (run : EStateM ε σ α) : Prop :=
  ∀ ⦃state : σ⦄ ⦃e : ε⦄ ⦃after : σ⦄, run state = .error e after → after = state

/-- The computation changes nothing. -/
def Still (run : EStateM ε σ α) : Prop :=
  ∀ state, (∃ value, run state = .ok value state) ∨ ∃ e, run state = .error e state

/-- The computation does not fail. -/
def Sure (run : EStateM ε σ α) : Prop :=
  ∀ state, ∃ value after, run state = .ok value after

theorem Still.liftM (check : Except ε α) : Still (liftM check : EStateM ε σ α) := by
  intro state
  cases check with
  | ok value => exact .inl ⟨value, rfl⟩
  | error e => exact .inr ⟨e, rfl⟩

theorem Still.pure (value : α) : Still (pure value : EStateM ε σ α) := fun _ => .inl ⟨value, rfl⟩

theorem Still.map (f : α → β) {run : EStateM ε σ α} (hrun : Still run) : Still (f <$> run) := by
  intro state
  change (∃ value, EStateM.map f run state = _) ∨ ∃ e, EStateM.map f run state = _
  rcases hrun state with ⟨value, hends⟩ | ⟨e, hends⟩
  · exact .inl ⟨f value, by rw [EStateM.map, hends]⟩
  · exact .inr ⟨e, by rw [EStateM.map, hends]⟩

theorem Still.get : Still (get : EStateM ε σ σ) := fun state => .inl ⟨state, rfl⟩

theorem Still.own : Still (own : EStateM ε (Receiver σ) σ) := fun receiver =>
  .inl ⟨receiver.state, rfl⟩

theorem Still.heap : Still (heap : EStateM ε (Receiver σ) Heap) := fun receiver =>
  .inl ⟨receiver.heap, rfl⟩

theorem bind_ok {run : EStateM ε σ α} {state after : σ} {value : α}
    (hrun : run state = .ok value after) (rest : α → EStateM ε σ β) :
    (run >>= rest) state = rest value after := by
  change EStateM.bind run rest state = _
  rw [EStateM.bind, hrun]

theorem bind_error {run : EStateM ε σ α} {state after : σ} {e : ε}
    (hrun : run state = .error e after) (rest : α → EStateM ε σ β) :
    (run >>= rest) state = .error e after := by
  change EStateM.bind run rest state = _
  rw [EStateM.bind, hrun]

theorem ok_of_outcome (finish : σ → α → β) {run : EStateM ε σ α} {state : σ}
    (hrun : ∃ result, outcome finish run state = .ok result) :
    ∃ value after, run state = .ok value after := by
  obtain ⟨result, hrun⟩ := hrun
  unfold outcome at hrun
  split at hrun
  · rename_i value after hends
    exact ⟨value, after, hends⟩
  · cases hrun

namespace Clean

theorem throw (e : ε) : Clean (throw e : EStateM ε σ α) := by
  rintro state _ _ ⟨⟩
  rfl

theorem sure {run : EStateM ε σ α} (hrun : Sure run) : Clean run := by
  intro state e after hfails
  obtain ⟨value, after, hends⟩ := hrun state
  rw [hends] at hfails
  cases hfails

theorem bind {run : EStateM ε σ α} {rest : α → EStateM ε σ β} (hrun : Still run)
    (hrest : ∀ value, Clean (rest value)) : Clean (run >>= rest) := by
  intro state e after hfails
  rcases hrun state with ⟨value, hends⟩ | ⟨e, hends⟩
  · rw [bind_ok hends] at hfails
    exact hrest value hfails
  · rw [bind_error hends] at hfails
    cases hfails
    rfl

theorem check {check : Except ε α} {rest : α → EStateM ε σ β}
    (hrest : ∀ value, Clean (rest value)) : Clean (liftM check >>= rest) :=
  bind (.liftM check) hrest

theorem adaptExcept {δ : Type} (f : δ → ε) {run : EStateM δ σ α} (hrun : Clean run) :
    Clean (EStateM.adaptExcept f run) := by
  intro state e after hfails
  unfold EStateM.adaptExcept at hfails
  split at hfails
  · rename_i hends
    cases hfails
    exact hrun hends
  · cases hfails

end Clean

end Procedure

open Procedure

theorem ArrayMethod.clean_perform (heap : Heap) (this : Handle) (call : Call) :
    Clean (ArrayMethod.perform heap this call) := by
  unfold ArrayMethod.perform
  split
  -- Setting an item may ask for too many items, appending for a component of another kind.
  case h_9 =>
    refine .check fun _ => .check fun index => ?_
    cases index with
    | none => exact .throw _
    | some index =>
        refine .check fun value => .bind .get fun items => ?_
        split
        · exact .check fun _ => .sure fun _ => ⟨_, _, rfl⟩
        · exact .sure fun _ => ⟨_, _, rfl⟩
  case h_10 =>
    refine .check fun _ => .bind .get fun items => .check fun other => ?_
    split
    · exact .throw _
    · exact .bind .get fun _ => .check fun _ => .sure fun _ => ⟨_, _, rfl⟩
  case h_13 => exact .throw _
  all_goals
    repeat refine .check fun _ => ?_
    exact .sure fun _ => ⟨_, _, rfl⟩

theorem TableMethod.clean_perform (this : Handle) (call : Call) :
    Clean (TableMethod.perform this call) := by
  unfold TableMethod.perform
  split
  -- Appending a component of another kind.
  case h_11 =>
    refine .check fun _ => .check fun other => ?_
    split
    · exact .sure fun _ => ⟨_, _, rfl⟩
    · refine .bind .heap fun heap => ?_
      split
      · exact .sure fun _ => ⟨_, _, rfl⟩
      · exact .throw _
  case h_12 => exact .throw _
  all_goals
    repeat refine .check fun _ => ?_
    exact .sure fun _ => ⟨_, _, rfl⟩

theorem ListMethod.clean_perform (call : Call) : Clean (ListMethod.perform call) := by
  unfold ListMethod.perform
  split
  case h_15 => exact .throw _
  all_goals
    repeat refine .check fun _ => ?_
    exact .sure fun _ => ⟨_, _, rfl⟩

theorem TextMethod.clean_perform (call : Call) : Clean (TextMethod.perform call) := by
  unfold TextMethod.perform
  split
  -- Appending may make too long a text, and its second argument is read after that is known.
  case h_4 =>
    refine .check fun _ => .check fun added => .bind .get fun value => .check fun _ => ?_
    split
    · exact .check fun _ => .sure fun _ => ⟨_, _, rfl⟩
    · exact .sure fun _ => ⟨_, _, rfl⟩
  -- The middle of a text may be asked for without a length.
  case h_8 =>
    refine .check fun _ => ?_
    split
    · exact .bind (.map some (.liftM _)) fun _ => .bind .get fun _ => .check fun _ =>
        .sure fun _ => ⟨_, _, rfl⟩
    · exact .bind (.pure none) fun _ => .bind .get fun _ => .check fun _ =>
        .sure fun _ => ⟨_, _, rfl⟩
  case h_10 =>
    refine .check fun _ => .check fun needle => ?_
    split
    · exact .sure fun _ => ⟨_, _, rfl⟩
    · exact .check fun _ => .sure fun _ => ⟨_, _, rfl⟩
  case h_18 => exact .throw _
  all_goals
    repeat refine .check fun _ => ?_
    exact .sure fun _ => ⟨_, _, rfl⟩

theorem TimespanMethod.clean_perform (clock : Nat) (call : Call) :
    Clean (TimespanMethod.perform clock call) := by
  unfold TimespanMethod.perform
  split
  case h_4 => exact .throw _
  all_goals exact .check fun _ => .sure fun _ => ⟨_, _, rfl⟩

theorem RegexMethod.clean_perform (call : Call) : Clean (RegexMethod.perform call) := by
  unfold RegexMethod.perform
  split
  case h_7 => exact .throw _
  all_goals
    repeat refine .check fun _ => ?_
    exact .sure fun _ => ⟨_, _, rfl⟩

theorem ElementMethod.clean_perform (this : Handle) (call : Call) :
    Clean (ElementMethod.perform this call) := by
  unfold ElementMethod.perform
  split
  -- A body is a text, a list of elements or nothing.
  case h_6 =>
    refine .check fun _ => .check fun value => .bind .heap fun heap => ?_
    split
    · exact .sure fun _ => ⟨_, _, rfl⟩
    · exact .throw _
  -- An element that contains itself cannot be written.
  case h_14 =>
    refine .check fun _ => ?_
    split
    · refine .bind (.pure true) fun withHeader => .bind .heap fun heap => .bind .own fun _ => ?_
      split
      · exact .sure fun _ => ⟨_, _, rfl⟩
      · exact .throw _
    · refine .check fun withHeader => .bind .heap fun heap => .bind .own fun _ => ?_
      split
      · exact .sure fun _ => ⟨_, _, rfl⟩
      · exact .throw _
  case h_15 => exact .throw _
  -- What is read of a body depends on its form.
  case h_7 | h_8 | h_11 =>
    refine .check fun _ => .bind .own fun element => ?_
    split <;> exact .sure fun _ => ⟨_, _, rfl⟩
  all_goals
    repeat refine .check fun _ => ?_
    exact .sure fun _ => ⟨_, _, rfl⟩

theorem ElementListMethod.clean_perform (call : Call) : Clean (ElementListMethod.perform call) := by
  unfold ElementListMethod.perform
  split
  -- Only elements are put in a list of elements.
  case h_3 | h_4 =>
    refine .check fun _ => .check fun handle => .bind .heap fun heap => ?_
    split
    · exact .sure fun _ => ⟨_, _, rfl⟩
    · exact .throw _
  case h_10 => exact .throw _
  all_goals
    repeat refine .check fun _ => ?_
    exact .sure fun _ => ⟨_, _, rfl⟩

theorem Heap.eq_of_get?_alloc {heap : Heap} {component other : Component}
    (hget : (heap.alloc component).2.get? (heap.alloc component).1 = some other) :
    other = component := by
  obtain ⟨slot, hslot, hstate⟩ := get?_eq_some_iff.mp hget
  obtain ⟨-, hat, -, -⟩ := slot?_eq_some_iff.mp hslot
  unfold alloc at hat
  split at hat
  · rename_i index freeList hfree
    dsimp only at hat
    rw [Array.getElem?_setIfInBounds_self] at hat
    split at hat
    · cases hat
      cases hstate
      rfl
    · cases hat
  · dsimp only at hat
    rw [Array.getElem?_push_size] at hat
    cases hat
    cases hstate
    rfl

namespace Node

theorem clean_append (this child : Handle) : Clean (append this child) := by
  unfold append
  refine .bind .heap fun heap => .bind .own fun node => ?_
  split
  · exact .sure fun _ => ⟨_, _, rfl⟩
  · split
    · exact .sure fun _ => ⟨_, _, rfl⟩
    · refine .bind .heap fun heap => ?_
      split
      · exact .sure fun _ => ⟨_, _, rfl⟩
      · exact .throw _
      · exact .sure fun _ => ⟨_, _, rfl⟩

theorem append_ok (this : Handle) {child : Handle} (node : Node) {heap : Heap}
    (warnings : List String)
    (hchild : ∀ component, heap.get? child = some component → ∃ data, component = .node data) :
    ∃ value after, append this child ⟨node, heap, warnings⟩ = .ok value after := by
  refine ok_of_outcome Receiver.effect ?_
  unfold append
  simp only [outcome_heap, outcome_own, outcome_ite]
  split
  · exact ⟨_, rfl⟩
  · split
    · exact ⟨_, rfl⟩
    · cases hget : heap.get? child with
      | none => exact ⟨_, rfl⟩
      | some component =>
          obtain ⟨data, rfl⟩ := hchild component hget
          exact ⟨_, rfl⟩

end Node

theorem NodeMethod.sure_create (catalog : NodeCatalog) (this : Handle) (kind : String) :
    Sure (create catalog this kind) := by
  rintro ⟨node, heap, warnings⟩
  unfold create
  cases hdraft : catalog.draft kind with
  | error e => exact ⟨_, _, rfl⟩
  | ok draft =>
      have hwarned : (warn draft.warnings : EStateM String (Receiver Node) Unit)
          ⟨node, heap, warnings⟩ = .ok () ⟨node, heap, warnings ++ draft.warnings⟩ := rfl
      have halloc : (alloc (.node draft.node) : EStateM String (Receiver Node) Handle)
          ⟨node, heap, warnings ++ draft.warnings⟩ = .ok (heap.alloc (.node draft.node)).1
            ⟨node, (heap.alloc (.node draft.node)).2, warnings ++ draft.warnings⟩ := rfl
      obtain ⟨value, after, happend⟩ := Node.append_ok this node (warnings ++ draft.warnings)
        fun component hget => ⟨draft.node, heap.eq_of_get?_alloc hget⟩
      refine ⟨.object (heap.alloc (.node draft.node)).1, after, ?_⟩
      dsimp only
      rw [bind_ok hwarned, bind_ok halloc, bind_ok happend]
      rfl

theorem NodeMethod.clean_perform (catalog : NodeCatalog) (this : Handle) (call : Call) :
    Clean (NodeMethod.perform catalog this call) := by
  unfold NodeMethod.perform
  split
  -- Setting and adding a field look at the field before the second argument.
  case h_4 | h_6 =>
    refine .check fun _ => .check fun name => .bind .own fun node => ?_
    split
    · exact .sure fun _ => ⟨_, _, rfl⟩
    · exact .check fun _ => .sure fun _ => ⟨_, _, rfl⟩
  -- Setting and adding fields need a table.
  case h_9 | h_10 =>
    refine .check fun _ => .check fun source => .bind .heap fun heap => ?_
    split
    · exact .sure fun _ => ⟨_, _, rfl⟩
    · exact .throw _
  case h_11 =>
    exact .check fun _ => .check fun child => .adaptExcept _ (Node.clean_append this child)
  -- A created child is a node, so that appending it after it was allocated does not fail.
  case h_12 =>
    exact .check fun _ => .check fun kind => .adaptExcept _ (.sure (sure_create catalog this kind))
  case h_19 => exact .throw _
  all_goals
    repeat refine .check fun _ => ?_
    exact .sure fun _ => ⟨_, _, rfl⟩

theorem Procedure.error_of_leaving {ε σ τ α : Type} {f : σ → τ} {result : EStateM.Result ε σ α}
    {e : ε} {after : τ} (hfails : leaving f result = .error e after) :
    ∃ state, result = .error e state ∧ f state = after := by
  cases result with
  | ok value state => cases hfails
  | error _ state =>
      cases hfails
      exact ⟨state, rfl, rfl⟩

theorem Component.clean_perform (catalog : NodeCatalog) (this : Handle) (call : Call) :
    Clean (Component.perform catalog this call) := by
  rintro ⟨component, heap, warnings⟩ e after hfails
  cases component with
  | array items =>
      obtain ⟨_, hends, rfl⟩ := error_of_leaving hfails
      rw [ArrayMethod.clean_perform heap this call hends]
  | table entries =>
      obtain ⟨_, hends, rfl⟩ := error_of_leaving hfails
      rw [TableMethod.clean_perform this call hends]
      rfl
  | list items =>
      obtain ⟨_, hends, rfl⟩ := error_of_leaving hfails
      rw [ListMethod.clean_perform call hends]
  | timespan start =>
      obtain ⟨_, hends, rfl⟩ := error_of_leaving hfails
      rw [TimespanMethod.clean_perform heap.clock call hends]
  | regex data =>
      obtain ⟨_, hends, rfl⟩ := error_of_leaving hfails
      rw [RegexMethod.clean_perform call hends]
      rfl
  | text value =>
      obtain ⟨_, hends, rfl⟩ := error_of_leaving hfails
      rw [TextMethod.clean_perform call hends]
  | element data =>
      obtain ⟨_, hends, rfl⟩ := error_of_leaving hfails
      rw [ElementMethod.clean_perform this call hends]
      rfl
  | elementList elements =>
      obtain ⟨_, hends, rfl⟩ := error_of_leaving hfails
      rw [ElementListMethod.clean_perform call hends]
      rfl
  | node data =>
      obtain ⟨_, hends, rfl⟩ := error_of_leaving hfails
      rw [NodeMethod.clean_perform catalog this call hends]
      rfl
  | host object =>
      cases hfails
      rfl

theorem Component.clean_writeMember (name : String) (value : Value) :
    Clean (Component.writeMember name value) := by
  intro component e after hfails
  cases component with
  | table entries => cases hfails
  | node data => cases hfails
  | host object => cases hfails
  | _ =>
      cases hfails
      rfl

namespace Heap

variable {heap : Heap} {this : Handle} {component : Component}

theorem setState_self {slot : Slot} (hslot : heap.slot? this = some slot) :
    heap.setState this slot.state = heap := by
  obtain ⟨-, hat, -, -⟩ := slot?_eq_some_iff.mp hslot
  have hsame : heap.slots.setIfInBounds this.index slot = heap.slots := by
    refine Array.ext_getElem? fun index => ?_
    by_cases hindex : this.index = index
    · subst hindex
      rw [Array.getElem?_setIfInBounds_self_of_lt (Array.getElem?_eq_some_iff.mp hat).1, hat]
    · rw [Array.getElem?_setIfInBounds_ne hindex]
  rw [setState, hslot]
  exact congrArg ({ heap with slots := · }) hsame

theorem setState_setState {first : SlotState} (hfirst : first ≠ .free) (second : SlotState) :
    (heap.setState this first).setState this second = heap.setState this second := by
  cases hslot : heap.slot? this with
  | none =>
      have hsame : heap.setState this first = heap := by rw [setState, hslot]
      rw [hsame]
  | some slot =>
      have hafter : (heap.setState this first).slot? this = some { slot with state := first } := by
        rw [slot?_setState hfirst, if_pos rfl, hslot, Option.map_some]
      rw [setState, hafter]
      simp only [setState, hslot, Array.setIfInBounds_setIfInBounds]

theorem restore_lend_eq_set (hget : heap.get? this = some component) (new : Component) :
    (heap.lend this).restore this new = heap.set this new := by
  have hvalid : (heap.lend this).isValid this = true := by
    rw [isValid_lend]
    exact isValid_of_get? hget
  rw [restore_eq_setState hvalid (get?_lend_self heap this), lend, setState_setState (by simp), set,
    hget]

theorem set_self (hget : heap.get? this = some component) : heap.set this component = heap := by
  obtain ⟨slot, hslot, hstate⟩ := get?_eq_some_iff.mp hget
  rw [set, hget]
  dsimp only
  rw [← hstate, setState_self hslot]

/-- A component that is put back as it was taken out leaves no trace. -/
theorem restore_lend (hget : heap.get? this = some component) :
    (heap.lend this).restore this component = heap := by
  rw [restore_lend_eq_set hget, set_self hget]

section Call

variable {catalog : NodeCatalog} {method : String} {arguments : List Value}

theorem callMethod_of_none (hget : heap.get? this = none) :
    heap.callMethod catalog this method arguments = ⟨.error .released, heap, []⟩ := by
  rw [callMethod, take?, hget]

theorem callMethod_of_ok (hget : heap.get? this = some component) {effect : Effect Component}
    (hcall : component.call (heap.lend this) catalog this ⟨Name.key method, arguments⟩ =
      .ok effect) :
    heap.callMethod catalog this method arguments =
      ⟨.ok effect.value, effect.heap.restore this effect.state, effect.warnings⟩ := by
  rw [Component.call, outcome] at hcall
  rw [callMethod, take?, hget]
  dsimp only
  split at hcall
  · rename_i hends
    cases hcall
    rw [hends]
    rfl
  · cases hcall

theorem callMethod_of_error (hget : heap.get? this = some component) {e : MethodError}
    (hcall : component.call (heap.lend this) catalog this ⟨Name.key method, arguments⟩ =
      .error e) :
    heap.callMethod catalog this method arguments = ⟨.error e, heap, []⟩ := by
  rw [Component.call, outcome] at hcall
  rw [callMethod, take?, hget]
  dsimp only
  split at hcall
  · cases hcall
  · rename_i hends
    obtain rfl := Component.clean_perform _ _ _ hends
    cases hcall
    rw [hends]
    dsimp only
    rw [restore_lend hget]

end Call

section Write

variable {name : String} {value : Value}

theorem writeMember_of_none (hget : heap.get? this = none) :
    heap.writeMember this name value = (.error .released, heap) := by
  rw [writeMember, hget]

theorem writeMember_of_ok (hget : heap.get? this = some component) {new : Component}
    (hset : component.setMember name value = .ok new) :
    heap.writeMember this name value = (.ok (), heap.set this new) := by
  rw [Component.setMember, outcome] at hset
  rw [writeMember, hget]
  dsimp only
  split at hset
  · rename_i hends
    cases hset
    rw [hends]
  · cases hset

theorem writeMember_of_error (hget : heap.get? this = some component) {e : MethodError}
    (hset : component.setMember name value = .error e) :
    heap.writeMember this name value = (.error e, heap) := by
  rw [Component.setMember, outcome] at hset
  rw [writeMember, hget]
  dsimp only
  split at hset
  · cases hset
  · rename_i hends
    obtain rfl := Component.clean_writeMember _ _ hends
    cases hset
    rw [hends]
    dsimp only
    rw [set_self hget]

theorem setMember_of_get? (hget : heap.get? this = some component) :
    heap.setMember this name value = heap.set this <$> component.setMember name value := by
  rw [setMember]
  cases hset : component.setMember name value with
  | ok new =>
      rw [writeMember_of_ok hget hset]
      rfl
  | error e =>
      rw [writeMember_of_error hget hset]
      rfl

end Write

theorem heap_of_failed_call {catalog : NodeCatalog} {method : String} {arguments : List Value}
    {e : MethodError} (hfails : (heap.callMethod catalog this method arguments).result = .error e) :
    (heap.callMethod catalog this method arguments).heap = heap := by
  cases hget : heap.get? this with
  | none => rw [callMethod_of_none hget]
  | some component =>
      cases hcall : component.call (heap.lend this) catalog this ⟨Name.key method, arguments⟩ with
      | ok effect =>
          rw [callMethod_of_ok hget hcall] at hfails
          cases hfails
      | error e => rw [callMethod_of_error hget hcall]

theorem heap_of_failed_write {name : String} {value : Value} {e : MethodError}
    (hfails : (heap.writeMember this name value).1 = .error e) :
    (heap.writeMember this name value).2 = heap := by
  cases hget : heap.get? this with
  | none => rw [writeMember_of_none hget]
  | some component =>
      cases hset : component.setMember name value with
      | ok new =>
          rw [writeMember_of_ok hget hset] at hfails
          cases hfails
      | error e => rw [writeMember_of_error hget hset]

/-- A method call or a write to a member that fails leaves the heap as it was: every slot with the
component in it, the free list and the counters. -/
theorem failed_operation_leaves_heap (heap : Heap) (catalog : NodeCatalog) (this : Handle) :
    (∀ (method : String) (arguments : List Value) (e : MethodError),
      (heap.callMethod catalog this method arguments).result = .error e →
        (heap.callMethod catalog this method arguments).heap = heap) ∧
    ∀ (name : String) (value : Value) (e : MethodError),
      (heap.writeMember this name value).1 = .error e →
        (heap.writeMember this name value).2 = heap :=
  ⟨fun _ _ _ hfails => heap_of_failed_call hfails,
    fun _ _ _ hfails => heap_of_failed_write hfails⟩

/-- An item that is set too far behind the end of an array, and a member of that array. -/
theorem failed_operation_leaves_heap_far_item :
    let heap := ((Heap.empty ⟨0⟩).alloc (.array #[.integer 1])).2
    let this : Handle := ⟨⟨0⟩, 0, 0⟩
    let called := heap.callMethod .empty this "SetEntry" [.integer 100000000000, .integer 1]
    let written := heap.writeMember this "size" (.integer 2)
    called.result = .error (.failed "setentry" "100000000001 items exceeds the limit of 4194304") ∧
      called.heap = heap ∧
      written.1 = .error (.unknownMember "roArray" "size") ∧ written.2 = heap := by
  intro heap this called written
  have hcalled : called.result =
      .error (.failed "setentry" "100000000001 items exceeds the limit of 4194304") := by
    dsimp only [called, heap, this]
    decide +kernel
  have hwritten : written.1 = .error (.unknownMember "roArray" "size") := by
    dsimp only [written, heap, this]
    decide +kernel
  exact ⟨hcalled, (failed_operation_leaves_heap heap .empty this).1 _ _ _ hcalled, hwritten,
    (failed_operation_leaves_heap heap .empty this).2 _ _ _ hwritten⟩

end Heap

end BrightScript
