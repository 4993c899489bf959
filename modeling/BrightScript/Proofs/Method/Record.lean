import BrightScript.Proofs.Heap.Snapshot
import BrightScript.Proofs.Method.Effect
import BrightScript.Proofs.Method.Fields
import BrightScript.Proofs.Scene.Kind
import BrightScript.Proofs.SortedMap

namespace BrightScript

open Dictionary (writes)

namespace Heap

/-- The entries of a handle's table, or the fields of its node. -/
def fields? (heap : Heap) (handle : Handle) : Option (NameMap Value) :=
  match heap.get? handle with
  | some (.table entries) => some entries
  | some (.node node) => some node.fields
  | _ => none

/-- What a call of a method does to the entries or the fields of its receiver. -/
def events (heap : Heap) (this : Handle) (call : Call) : List (MapEvent Value) :=
  match heap.get? this with
  | some (.table _) => TableMethod.events heap call
  | some (.node node) => NodeMethod.events heap node call
  | _ => []

/-- A heap that a program comes to, with what it has done to the entries or the fields of one
component since that was made. -/
inductive Recorded (this : Handle) : Heap → List (MapEvent Value) → Prop
  /-- A table that was set up entry by entry. -/
  | table {heap : Heap} (hheap : heap.Scripted) {entries : List (String × Value)}
      (hget : heap.get? this = some (.table (.ofList entries))) :
      Recorded this heap (writes entries)
  /-- A node has the fields of its kind and those that this extends, from the most general one
  down. -/
  | node {heap : Heap} (hheap : heap.Scripted) {catalog : NodeCatalog} {kind : String}
      {draft : NodeDraft} {chain : List KindLayer} {node : Node}
      (hdraft : catalog.draft kind = .ok draft) (hchain : catalog.Chain kind chain)
      (hget : heap.get? this = some (.node node)) (hfields : node.fields = draft.node.fields) :
      Recorded this heap (writes (chain.reverse.flatMap KindLayer.fields))
  | create {heap : Heap} {history : List (MapEvent Value)} (hrecorded : Recorded this heap history)
      {registry : Registry} (hregistry : registry.All Constructor.MakesUnlinked) {clock : Nat}
      {catalog : NodeCatalog} {kind : String} {arguments : List Value} {creation : Creation}
      (hcreate : registry.create clock catalog kind arguments = .ok creation) :
      Recorded this (heap.alloc creation.component).2 history
  | literal {heap : Heap} {history : List (MapEvent Value)} (hrecorded : Recorded this heap history)
      {component : Component} (hleaf : component.links? = none) :
      Recorded this (heap.alloc component).2 history
  | callMethod {heap : Heap} {history : List (MapEvent Value)}
      (hrecorded : Recorded this heap history) (catalog : NodeCatalog) (receiver : Handle)
      (method : String) (arguments : List Value) :
      Recorded this (heap.callMethod catalog receiver method arguments).heap (history ++
        if receiver = this then heap.events this ⟨Name.key method, arguments⟩ else [])
  | setMember {heap changed : Heap} {history : List (MapEvent Value)}
      (hrecorded : Recorded this heap history) {receiver : Handle} {name : String} {value : Value}
      (hset : heap.setMember receiver name value = .ok changed) :
      Recorded this changed (history ++ if receiver = this then [.write name value] else [])
  | collect {heap : Heap} {history : List (MapEvent Value)} (hrecorded : Recorded this heap history)
      {roots : List Handle} (hreach : heap.Reaches roots this) :
      Recorded this (heap.collect roots) history
  | atTime {heap : Heap} {history : List (MapEvent Value)} (hrecorded : Recorded this heap history)
      (time : Nat) : Recorded this (heap.atTime time) history

variable {heap : Heap} {this : Handle} {history : List (MapEvent Value)} {fields : NameMap Value}

theorem Recorded.scripted (hrecorded : Recorded this heap history) : heap.Scripted := by
  induction hrecorded with
  | table hheap _ => exact hheap
  | node hheap _ _ _ _ => exact hheap
  | create _ hregistry hcreate ih => exact ih.create hregistry hcreate
  | literal _ hleaf ih => exact ih.literal hleaf
  | callMethod _ catalog receiver method arguments ih =>
      exact ih.callMethod catalog receiver method arguments
  | setMember _ hset ih => exact ih.setMember hset
  | @collect _ _ _ roots _ ih => exact ih.collect roots
  | atTime _ time ih => exact ih.atTime time

theorem exists_component_of_fields? (hfields : heap.fields? this = some fields) :
    heap.get? this = some (.table fields) ∨
      ∃ node, heap.get? this = some (.node node) ∧ node.fields = fields := by
  unfold fields? at hfields
  split at hfields
  · next entries hget =>
      cases hfields
      exact .inl hget
  · next node hget => exact .inr ⟨node, hget, Option.some.inj hfields⟩
  · cases hfields

theorem fields?_of_table (hget : heap.get? this = some (.table fields)) :
    heap.fields? this = some fields := by
  rw [fields?, hget]

theorem fields?_of_node {node : Node} (hget : heap.get? this = some (.node node)) :
    heap.fields? this = some node.fields := by
  rw [fields?, hget]

theorem fields?_congr {other : Heap} (hget : other.get? this = heap.get? this) :
    other.fields? this = heap.fields? this := by
  rw [fields?, fields?, hget]

theorem isValid_of_fields? (hfields : heap.fields? this = some fields) :
    heap.isValid this = true := by
  rcases exists_component_of_fields? hfields with hget | ⟨node, hget, -⟩
  · exact isValid_of_get? hget
  · exact isValid_of_get? hget

theorem fields?_alloc (hheap : heap.WellFormed) (hfields : heap.fields? this = some fields)
    (component : Component) : (heap.alloc component).2.fields? this = some fields := by
  have hfresh : (heap.alloc component).1 ≠ this := by
    rintro rfl
    have hvalid := isValid_of_fields? hfields
    rw [hheap.isValid_alloc_fst] at hvalid
    cases hvalid
  rw [← hfields]
  exact fields?_congr (by rw [hheap.get?_alloc, if_neg hfresh])

/-- A call on another component may tell a node its new parent or child, but leaves its fields
alone. -/
theorem fields?_callMethod_other (hheap : heap.Scripted) (hfields : heap.fields? this = some fields)
    (catalog : NodeCatalog) {receiver : Handle} (hdiffer : receiver ≠ this) (method : String)
    (arguments : List Value) :
    (heap.callMethod catalog receiver method arguments).heap.fields? this = some fields := by
  cases hget : heap.get? receiver with
  | none => rwa [callMethod_of_none hget]
  | some component =>
    cases hcall : component.call (heap.lend receiver) catalog receiver
        ⟨Name.key method, arguments⟩ with
    | error e => rwa [callMethod_of_error hget hcall]
    | ok effect =>
        have halters := hheap.alters_of_call hcall
        have hvalid : (heap.lend receiver).isValid this = true := by
          rw [isValid_lend, isValid_of_fields? hfields]
        have hlent : (heap.lend receiver).fields? this = some fields := by
          rw [← hfields]
          exact fields?_congr (by rw [get?_lend, if_neg hdiffer])
        have hback : (effect.heap.restore receiver effect.state).get? this =
            effect.heap.get? this := by
          rw [halters.get?_restore hget, if_neg hdiffer]
        rw [callMethod_of_ok hget hcall, fields?_congr hback, ← hlent]
        rcases halters.get? this hvalid with hsame | ⟨node, edited, hnode, hedited, hedit⟩
        · exact fields?_congr hsame
        · rw [fields?_of_node hedited, fields?_of_node hnode]
          cases hedit <;> rfl

theorem fields?_callMethod_self (hheap : heap.Scripted) (hfields : heap.fields? this = some fields)
    (hdistinct : fields.names.Pairwise fun left right => Name.key left ≠ Name.key right)
    (catalog : NodeCatalog) (method : String) (arguments : List Value) :
    (heap.callMethod catalog this method arguments).heap.fields? this =
      some (fields.applyAll (heap.events this ⟨Name.key method, arguments⟩)) := by
  have hkept : ∀ {component : Component} {effect : Effect Component},
      heap.get? this = some component →
      component.call (heap.lend this) catalog this ⟨Name.key method, arguments⟩ = .ok effect →
        (heap.callMethod catalog this method arguments).heap.get? this = some effect.state := by
    intro component effect hget hcall
    rw [callMethod_of_ok hget hcall, (hheap.alters_of_call hcall).get?_restore hget, if_pos rfl]
  rcases exists_component_of_fields? hfields with hget | ⟨node, hget, rfl⟩
  · rw [events, hget]
    dsimp only
    cases hcall : TableMethod.call (heap.lend this) this fields ⟨Name.key method, arguments⟩ with
    | error e =>
        have herror : (Component.table fields).call (heap.lend this) catalog this
            ⟨Name.key method, arguments⟩ = .error e := by
          rw [Component.call_table, hcall]
          rfl
        rw [callMethod_of_error hget herror, TableMethod.events_of_error hget hdistinct hcall]
        exact hfields
    | ok effect =>
        have hok : (Component.table fields).call (heap.lend this) catalog this
            ⟨Name.key method, arguments⟩ = .ok (effect.map .table) := by
          rw [Component.call_table, hcall]
          rfl
        rw [← TableMethod.state_of_call hget hdistinct hcall]
        exact fields?_of_table (hkept hget hok)
  · rw [events, hget]
    dsimp only
    cases hcall : NodeMethod.call (heap.lend this) catalog this node
        ⟨Name.key method, arguments⟩ with
    | error e =>
        have herror : (Component.node node).call (heap.lend this) catalog this
            ⟨Name.key method, arguments⟩ = .error e := by
          rw [Component.call_node, hcall]
          rfl
        rw [callMethod_of_error hget herror, NodeMethod.events_of_error hget hcall]
        exact hfields
    | ok effect =>
        have hok : (Component.node node).call (heap.lend this) catalog this
            ⟨Name.key method, arguments⟩ = .ok (effect.map .node) := by
          rw [Component.call_node, hcall]
          rfl
        rw [← NodeMethod.fields_of_call hcall]
        exact fields?_of_node (hkept hget hok)

theorem fields?_setMember {receiver : Handle} {name : String} {value : Value} {changed : Heap}
    (hset : heap.setMember receiver name value = .ok changed)
    (hfields : heap.fields? this = some fields) : changed.fields? this =
      some (fields.applyAll (if receiver = this then [.write name value] else [])) := by
  cases hget : heap.get? receiver with
  | none =>
      rw [setMember, writeMember_of_none hget] at hset
      cases hset
  | some component =>
      rw [setMember_of_get? hget] at hset
      obtain ⟨new, hnew, rfl⟩ := map_eq_ok_iff.mp hset
      by_cases hthis : receiver = this
      · subst hthis
        have hafter : (heap.set receiver new).get? receiver = some new := by
          rw [get?_set, if_pos rfl, hget]
          rfl
        rw [if_pos rfl]
        rcases exists_component_of_fields? hfields with hthis | ⟨node, hthis, rfl⟩
        · cases hget.symm.trans hthis
          cases hnew
          exact fields?_of_table hafter
        · cases hget.symm.trans hthis
          cases hnew
          exact fields?_of_node hafter
      · rw [if_neg hthis]
        have hsame : (heap.set receiver new).get? this = heap.get? this := by
          rw [get?_set, if_neg hthis]
        exact (fields?_congr hsame).trans hfields

theorem fields?_collect (hheap : heap.WellFormed) {roots : List Handle}
    (hreach : heap.Reaches roots this) (hfields : heap.fields? this = some fields) :
    (heap.collect roots).fields? this = some fields := by
  rcases exists_component_of_fields? hfields with hget | ⟨node, hget, rfl⟩
  · exact fields?_of_table (hheap.get?_collect.mpr ⟨hget, hreach⟩)
  · exact fields?_of_node (hheap.get?_collect.mpr ⟨hget, hreach⟩)

/-- Whatever a program does, the fields of a component are what its history leaves. -/
theorem Recorded.fields?_eq (hrecorded : Recorded this heap history) :
    heap.fields? this = some (Dictionary.empty.applyAll history) := by
  induction hrecorded with
  | table _ hget =>
      rw [fields?_of_table hget, Dictionary.applyAll_writes]
      rfl
  | node _ hdraft hchain hget hfields =>
      rw [fields?_of_node hget, hfields, NodeCatalog.node_of_draft hdraft hchain,
        Dictionary.applyAll_writes]
      rfl
  | create hrecorded _ _ ih => exact fields?_alloc hrecorded.scripted.forested.wellFormed ih _
  | literal hrecorded _ ih => exact fields?_alloc hrecorded.scripted.forested.wellFormed ih _
  | @callMethod _ history hrecorded catalog receiver method arguments ih =>
      rw [Dictionary.applyAll_append]
      split
      · next hthis =>
          subst hthis
          exact fields?_callMethod_self hrecorded.scripted ih
            (Dictionary.records_applyAll history).pairwise ..
      · next hthis => exact fields?_callMethod_other hrecorded.scripted ih catalog hthis ..
  | setMember _ hset ih =>
      rw [Dictionary.applyAll_append]
      exact fields?_setMember hset ih
  | collect hrecorded hreach ih =>
      exact fields?_collect hrecorded.scripted.forested.wellFormed hreach ih
  | atTime _ time ih => exact ih

end Heap

end BrightScript
