import BrightScript.Proofs.Dictionary.History
import BrightScript.Proofs.Method.Footprint

namespace BrightScript

namespace Call

variable {call : Call} {position count : Nat}

theorem expectBetween_eq_ok_iff {least most : Nat} {checked : Unit} :
    call.expectBetween least most = .ok checked ↔
      least ≤ call.arguments.length ∧ call.arguments.length ≤ most := by
  simp [expectBetween]

theorem expect_eq_ok_iff {checked : Unit} :
    call.expect count = .ok checked ↔ call.arguments.length = count := by
  rw [expect, expectBetween_eq_ok_iff]
  omega

theorem text_eq_ok_iff {name : String} :
    call.text position = .ok name ↔ call.arguments[position]? = some (.text name) := by
  unfold text
  split <;> simp_all

theorem value_eq_ok_iff {value : Value} :
    call.value position = .ok value ↔ call.arguments[position]? = some value := by
  unfold Call.value
  split <;> simp_all

theorem object_eq_ok_iff {handle : Handle} :
    call.object position = .ok handle ↔ call.arguments[position]? = some (.object handle) := by
  unfold object
  split <;> simp_all

end Call

open Dictionary (writes)
open Procedure

namespace TableMethod

/-- What a call of a method of a table does to its entries. -/
def events (heap : Heap) (call : Call) : List (MapEvent Value) :=
  match call.method, call.arguments with
  | "addreplace", [.text name, value] => [.write name value]
  | "delete", [.text name] => [.remove name]
  | "clear", [] => [.clear]
  | "append", [.object other] =>
    match heap.get? other with
    | some (.table added) => writes added.entries
    | _ => []
  | _, _ => []

variable {heap : Heap} {this : Handle} {table : NameMap Value}

theorem call_append (heap : Heap) (this : Handle) (table : NameMap Value) (other : Handle) :
    TableMethod.call heap this table ⟨"append", [.object other]⟩ =
      if other = this then .ok ⟨table, heap, .invalid, []⟩
      else match heap.get? other with
        | some (.table added) => .ok ⟨table.insertMany added.entries, heap, .invalid, []⟩
        | _ => .error (.failed "append" "argument must be an roAssociativeArray") := by
  change outcome _ (if other = this then _ else _) _ = _
  rw [outcome_ite]
  split
  · rfl
  · rw [outcome_heap]
    cases heap.get? other with
    | none => rfl
    | some component => cases component <;> rfl

theorem state_of_append (hget : heap.get? this = some (.table table))
    (htable : table.names.Pairwise fun left right => Name.key left ≠ Name.key right)
    (other : Handle) :
    (∃ added, heap.get? other = some (.table added) ∧
      TableMethod.call (heap.lend this) this table ⟨"append", [.object other]⟩ =
        .ok ⟨table.insertMany added.entries, heap.lend this, .invalid, []⟩) ∨
    events heap ⟨"append", [.object other]⟩ = [] ∧ ∃ e,
      TableMethod.call (heap.lend this) this table ⟨"append", [.object other]⟩ = .error e := by
  rw [call_append, Heap.get?_lend]
  by_cases hthis : other = this
  · subst hthis
    rw [if_pos rfl]
    refine .inl ⟨table, hget, ?_⟩
    rw [Dictionary.insertMany_of_mem htable fun _ hentry => hentry]
  · rw [if_neg hthis, if_neg (Ne.symm hthis)]
    simp only [events]
    split
    · next added hadded => exact .inl ⟨added, hadded, rfl⟩
    · exact .inr ⟨rfl, _, rfl⟩

theorem state_of_call (hget : heap.get? this = some (.table table))
    (htable : table.names.Pairwise fun left right => Name.key left ≠ Name.key right) {call : Call}
    {effect : Effect (NameMap Value)}
    (hcall : TableMethod.call (heap.lend this) this table call = .ok effect) :
    effect.state = table.applyAll (events heap call) := by
  obtain ⟨method, arguments⟩ := call
  have hends := hcall
  unfold TableMethod.call perform at hcall
  dsimp only at hcall
  split at hcall <;> simp only [outcome_check, outcome_throw, bind_eq_ok_iff,
    Call.expect_eq_ok_iff, Call.text_eq_ok_iff, Call.value_eq_ok_iff, Call.object_eq_ok_iff,
    reduceCtorEq] at hcall
  case h_1 =>
    obtain ⟨-, hlength, name, hname, value, hvalue, heffect⟩ := hcall
    obtain ⟨first, second, rfl⟩ := List.length_eq_two.mp hlength
    cases hname
    cases hvalue
    cases heffect
    rfl
  case h_5 =>
    obtain ⟨-, hlength, name, hname, heffect⟩ := hcall
    obtain ⟨first, rfl⟩ := List.length_eq_one_iff.mp hlength
    cases hname
    cases heffect
    rfl
  case h_8 =>
    obtain ⟨-, hlength, heffect⟩ := hcall
    obtain rfl := List.length_eq_zero_iff.mp hlength
    cases heffect
    rfl
  case h_11 =>
    obtain ⟨-, hlength, other, hother, -⟩ := hcall
    obtain ⟨first, rfl⟩ := List.length_eq_one_iff.mp hlength
    cases hother
    rcases state_of_append hget htable other with ⟨added, hadded, hok⟩ | ⟨-, e, herror⟩
    · cases hok.symm.trans hends
      simp only [events, hadded]
      exact (Dictionary.applyAll_writes table added.entries).symm
    · cases herror.symm.trans hends
  all_goals
    have hquiet : table.applyAll [] = table := rfl
    simp only [events]
    grind [Effect.made]

theorem events_of_error (hget : heap.get? this = some (.table table))
    (htable : table.names.Pairwise fun left right => Name.key left ≠ Name.key right) {call : Call}
    {e : MethodError} (hcall : TableMethod.call (heap.lend this) this table call = .error e) :
    events heap call = [] := by
  obtain ⟨method, arguments⟩ := call
  unfold events
  split
  case h_4 _ other hmethod harguments =>
    dsimp only at hmethod harguments
    subst hmethod harguments
    rcases state_of_append hget htable other with ⟨added, hadded, hok⟩ | ⟨hnone, -⟩
    · cases hok.symm.trans hcall
    · exact hnone
  case h_5 => rfl
  all_goals
    rename_i hmethod harguments
    dsimp only at hmethod harguments
    subst hmethod harguments
    cases hcall

end TableMethod

namespace Node

variable {heap : Heap} {this child : Handle} {node : Node}

theorem fields_setFields_adding (node : Node) (fields : List (String × Value)) :
    (node.setFields true fields).fields = node.fields.insertMany fields := by
  induction fields generalizing node with
  | nil => rfl
  | cons field rest ih => exact ih (node.setField field.1 field.2)

theorem fields_setFields_existing (node : Node) (fields : List (String × Value)) :
    (node.setFields false fields).fields =
      node.fields.insertMany (fields.filter fun field => node.fields.contains field.1) := by
  induction fields generalizing node with
  | nil => rfl
  | cons field rest ih =>
      rw [setFields, List.foldl_cons, Bool.false_or, ← setFields, ih, List.filter_cons]
      cases hcontains : node.fields.contains field.1 with
      | false => rfl
      | true =>
          have hsame : ∀ name,
              (node.fields.insert field.1 field.2).contains name = node.fields.contains name := by
            intro name
            rw [Dictionary.contains_insert]
            cases hname : Dictionary.sameKey Name.key name field.1 with
            | false => rfl
            | true =>
                have hkey : Name.key name = Name.key field.1 := beq_iff_eq.mp hname
                rw [Bool.true_or, Dictionary.contains, hkey]
                exact hcontains.symm
          simp only [if_true, setField, hsame]
          rfl

theorem setFields_of_mem
    (hdistinct : node.fields.names.Pairwise fun left right => Name.key left ≠ Name.key right)
    (adding : Bool) {fields : List (String × Value)}
    (hfields : ∀ field ∈ fields, field ∈ node.fields.entries) :
    node.setFields adding fields = node := by
  induction fields with
  | nil => rfl
  | cons field rest ih =>
      obtain ⟨hfield, hrest⟩ := List.forall_mem_cons.mp hfields
      have hsame : node.setField field.1 field.2 = node := by
        rw [setField, Dictionary.insert_of_mem hdistinct hfield]
      rw [setFields, List.foldl_cons, hsame, ite_self]
      exact ih hrest

theorem fields_adopt (heap : Heap) (this : Handle) (node : Node) (child : Handle)
    (parent : Option Handle) : (adopt heap this node child parent).1.fields = node.fields := by
  unfold adopt
  dsimp only
  split <;> rfl

theorem fields_appendChild {effect : Effect Node}
    (happend : node.appendChild heap this child = .ok effect) :
    effect.state.fields = node.fields := by
  unfold appendChild append at happend
  simp only [outcome_own, outcome_heap, outcome_ite] at happend
  split at happend
  · cases happend
    rfl
  split at happend
  · cases happend
    rfl
  split at happend
  · rw [outcome_carryOut] at happend
    cases happend
    exact fields_adopt heap ..
  · cases happend
  · cases happend
    rfl

theorem fields_removeChild (heap : Heap) (node : Node) (child : Handle) :
    (node.removeChild heap child).state.fields = node.fields := by
  unfold removeChild
  split <;> rfl

end Node

namespace NodeMethod

/-- What a call of a method of a node does to its fields. -/
def events (heap : Heap) (node : Node) (call : Call) : List (MapEvent Value) :=
  match call.method, call.arguments with
  | "setfield", [.text name, value] =>
    if node.fields.contains name then [.write name value] else []
  | "addfield", .text name :: .text type :: rest =>
    if node.fields.contains name || rest.length > 1 then []
    else [.write name (Node.initialValue type)]
  | "removefield", [.text name] => [.remove name]
  | "setfields", [.object source] =>
    match heap.get? source with
    | some (.table fields) =>
      writes (fields.entries.filter fun field => node.fields.contains field.1)
    | _ => []
  | "addfields", [.object source] =>
    match heap.get? source with
    | some (.table fields) => writes fields.entries
    | _ => []
  | _, _ => []

variable {heap : Heap} {catalog : NodeCatalog} {this : Handle} {node : Node}

theorem fields_createChild {kind : String} {effect : Effect Node}
    (hcreate : createChild heap catalog this node kind = .ok effect) :
    effect.state.fields = node.fields := by
  cases hdraft : catalog.draft kind with
  | error e =>
      rw [createChild_of_error hdraft] at hcreate
      cases hcreate
      rfl
  | ok draft =>
      rw [createChild_of_draft hdraft rfl] at hcreate
      obtain ⟨appended, happend, rfl⟩ := map_eq_ok_iff.mp hcreate
      have hfields := Node.fields_appendChild happend
      exact hfields

section Call

variable (heap : Heap) (catalog : NodeCatalog) (this : Handle) (node : Node)

theorem call_setField (name : String) (value : Value) :
    NodeMethod.call heap catalog this node ⟨"setfield", [.text name, value]⟩ =
      if node.fields.contains name then .ok ⟨node.setField name value, heap, .boolean true, []⟩
      else .ok ⟨node, heap, .boolean false, []⟩ := by
  change outcome _ (if !node.fields.contains name then _ else _) _ = _
  rw [outcome_ite]
  cases node.fields.contains name <;> rfl

theorem call_addField (name type : String) {rest : List Value} (hrest : rest.length ≤ 1) :
    NodeMethod.call heap catalog this node ⟨"addfield", .text name :: .text type :: rest⟩ =
      if node.fields.contains name then .ok ⟨node, heap, .boolean false, []⟩
      else .ok ⟨node.setField name (Node.initialValue type), heap, .boolean true, []⟩ := by
  match rest with
  | [] | [_] =>
      change outcome _ (if node.fields.contains name then _ else _) _ = _
      rw [outcome_ite]
      cases node.fields.contains name <;> rfl
  | _ :: _ :: _ => simp at hrest

/-- The method that lays the fields of a table over a node. -/
def fieldsMethod (adding : Bool) : String := if adding then "addfields" else "setfields"

theorem call_setFields (adding : Bool) (source : Handle) :
    NodeMethod.call heap catalog this node ⟨fieldsMethod adding, [.object source]⟩ =
      match heap.get? source with
      | some (.table fields) => .ok ⟨node.setFields adding fields.entries, heap, .boolean true, []⟩
      | _ => .error (.failed (fieldsMethod adding) "argument must be an roAssociativeArray") := by
  have hread : NodeMethod.call heap catalog this node ⟨fieldsMethod adding, [.object source]⟩ =
      outcome Receiver.effect (match heap.get? source with
        | some (.table fields) => do
          modifyOwn (·.setFields adding fields.entries)
          return .boolean true
        | _ => throw (.failed (fieldsMethod adding) "argument must be an roAssociativeArray"))
        ⟨node, heap, []⟩ := by
    cases adding <;> rfl
  rw [hread]
  cases heap.get? source with
  | none => rfl
  | some component => cases component <;> rfl

end Call

theorem events_fieldsMethod (heap : Heap) (node : Node) (adding : Bool) (source : Handle) :
    events heap node ⟨fieldsMethod adding, [.object source]⟩ =
      match heap.get? source with
      | some (.table fields) => writes
        (if adding then fields.entries
          else fields.entries.filter fun field => node.fields.contains field.1)
      | _ => [] := by
  cases adding <;> rfl

theorem fields_of_setFields (adding : Bool) {source : Handle} {effect : Effect Node}
    (hcall : NodeMethod.call (heap.lend this) catalog this node
      ⟨fieldsMethod adding, [.object source]⟩ = .ok effect) :
    effect.state.fields = node.fields.applyAll
      (events heap node ⟨fieldsMethod adding, [.object source]⟩) := by
  rw [call_setFields] at hcall
  split at hcall
  · next fields hfields =>
      cases hcall
      rw [events_fieldsMethod, (Heap.get?_of_get?_lend hfields).2]
      dsimp only
      rw [Dictionary.applyAll_writes]
      cases adding with
      | true => exact Node.fields_setFields_adding node fields.entries
      | false => exact Node.fields_setFields_existing node fields.entries
  · cases hcall

theorem events_of_setFields (hget : heap.get? this = some (.node node)) (adding : Bool)
    {source : Handle} {e : MethodError} (hcall : NodeMethod.call (heap.lend this) catalog this node
      ⟨fieldsMethod adding, [.object source]⟩ = .error e) :
    events heap node ⟨fieldsMethod adding, [.object source]⟩ = [] := by
  rw [events_fieldsMethod]
  split
  · next fields hfields =>
      have hdiffer : this ≠ source := by
        rintro rfl
        rw [hget] at hfields
        cases hfields
      rw [call_setFields, Heap.get?_lend, if_neg hdiffer, hfields] at hcall
      cases hcall
  · rfl

theorem fields_of_addField {arguments : List Value} {effect : Effect Node}
    (hcall : NodeMethod.call (heap.lend this) catalog this node ⟨"addfield", arguments⟩ =
      .ok effect) :
    effect.state.fields = node.fields.applyAll (events heap node ⟨"addfield", arguments⟩) := by
  have hends := hcall
  unfold NodeMethod.call perform at hcall
  simp only [outcome_check, bind_eq_ok_iff, Call.expectBetween_eq_ok_iff, Call.text_eq_ok_iff,
    outcome_own, outcome_ite] at hcall
  obtain ⟨-, ⟨hleast, hmost⟩, name, hname, heffect⟩ := hcall
  match arguments with
  | [] => cases hname
  | [_] => simp at hleast
  | first :: second :: rest =>
      cases hname
      cases hcontains : node.fields.contains name with
      | true =>
          have hnone : events heap node ⟨"addfield", .text name :: second :: rest⟩ = [] := by
            cases second with
            | text type => exact if_pos (by rw [hcontains, Bool.true_or])
            | _ => rfl
          rw [hcontains, if_pos rfl] at heffect
          cases heffect
          rw [hnone]
          rfl
      | false =>
          rw [hcontains, if_neg Bool.false_ne_true] at heffect
          simp only [bind_eq_ok_iff, Call.text_eq_ok_iff] at heffect
          obtain ⟨type, htype, heffect⟩ := heffect
          cases htype
          cases heffect
          have hfew : ¬ rest.length > 1 := by
            simp only [List.length_cons] at hmost
            omega
          have hone : events heap node ⟨"addfield", .text name :: .text type :: rest⟩ =
              [.write name (Node.initialValue type)] := if_neg (by simp [hcontains, hfew])
          rw [hone]
          rfl

theorem fields_of_call {call : Call} {effect : Effect Node}
    (hcall : NodeMethod.call (heap.lend this) catalog this node call = .ok effect) :
    effect.state.fields = node.fields.applyAll (events heap node call) := by
  obtain ⟨method, arguments⟩ := call
  have hends := hcall
  unfold NodeMethod.call perform at hcall
  dsimp only at hcall
  split at hcall <;> simp only [outcome_check, outcome_throw, outcome_adaptExcept,
    Node.outcome_append, outcome_create, bind_eq_ok_iff, mapError_eq_ok_iff,
    Call.expect_eq_ok_iff, Call.text_eq_ok_iff, Call.object_eq_ok_iff, reduceCtorEq] at hcall
  -- A field is set if there is one.
  case h_4 =>
    obtain ⟨-, hlength, name, hname, -⟩ := hcall
    obtain ⟨first, value, rfl⟩ := List.length_eq_two.mp hlength
    cases hname
    rw [call_setField] at hends
    simp only [events]
    split at hends
    · next hcontains =>
        cases hends
        rw [if_pos hcontains]
        rfl
    · next hcontains =>
        cases hends
        rw [if_neg hcontains]
        rfl
  case h_6 => exact fields_of_addField hends
  case h_7 =>
    obtain ⟨-, hlength, name, hname, heffect⟩ := hcall
    obtain ⟨first, rfl⟩ := List.length_eq_one_iff.mp hlength
    cases hname
    cases heffect
    rfl
  case h_9 =>
    obtain ⟨-, hlength, source, hsource, -⟩ := hcall
    obtain ⟨first, rfl⟩ := List.length_eq_one_iff.mp hlength
    cases hsource
    exact fields_of_setFields false hends
  case h_10 =>
    obtain ⟨-, hlength, source, hsource, -⟩ := hcall
    obtain ⟨first, rfl⟩ := List.length_eq_one_iff.mp hlength
    cases hsource
    exact fields_of_setFields true hends
  case h_11 =>
    obtain ⟨-, -, child, -, happend⟩ := hcall
    simp only [events]
    exact Node.fields_appendChild happend
  case h_12 =>
    obtain ⟨-, -, kind, -, hcreate⟩ := hcall
    simp only [events]
    exact fields_createChild hcreate
  case h_13 =>
    obtain ⟨-, -, child, -, hremove⟩ := hcall
    rw [outcome_carryOut] at hremove
    cases hremove
    simp only [events]
    exact Node.fields_removeChild ..
  all_goals
    have hquiet : node.fields.applyAll [] = node.fields := rfl
    simp only [events]
    grind [Effect.made]

theorem events_of_error (hget : heap.get? this = some (.node node)) {call : Call} {e : MethodError}
    (hcall : NodeMethod.call (heap.lend this) catalog this node call = .error e) :
    events heap node call = [] := by
  obtain ⟨method, arguments⟩ := call
  unfold events
  split
  case h_6 => rfl
  all_goals
    rename_i hmethod harguments
    dsimp only at hmethod harguments
    subst hmethod harguments
  case h_1 =>
    rw [call_setField] at hcall
    split at hcall <;> cases hcall
  case h_2 name type rest =>
    by_cases hrest : rest.length ≤ 1
    · rw [call_addField (heap.lend this) catalog this node name type hrest] at hcall
      split at hcall <;> cases hcall
    · exact if_pos (by simp [Nat.lt_of_not_ge hrest])
  case h_3 => cases hcall
  case h_4 source =>
    exact events_of_setFields hget false hcall
  case h_5 source =>
    exact events_of_setFields hget true hcall

end NodeMethod

end BrightScript
