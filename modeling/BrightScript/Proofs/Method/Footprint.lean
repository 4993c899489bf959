import BrightScript.Proofs.Heap.Lifetime
import BrightScript.Proofs.Scene.Forest

namespace BrightScript

namespace Heap

/-- A heap becomes another by making components under the given handles, each of which was not valid
before. -/
structure Makes (before after : Heap) (made : List Handle) : Prop where
  nodup : made.Nodup
  fresh : ∀ handle ∈ made, before.isValid handle = false
  isValid_iff : ∀ handle, after.isValid handle = true ↔
    before.isValid handle = true ∨ handle ∈ made
  size_eq : after.size = before.size + made.length
  allocated_eq : after.allocated = before.allocated + made.length
  ages : before.Ages after

namespace Makes

theorem refl (heap : Heap) : heap.Makes heap [] where
  nodup := List.nodup_nil
  fresh := List.forall_mem_nil _
  isValid_iff handle := by simp
  size_eq := rfl
  allocated_eq := rfl
  ages := .refl heap

theorem trans {first second third : Heap} {made later : List Handle} (h₁ : first.Makes second made)
    (h₂ : second.Makes third later) : first.Makes third (later ++ made) where
  nodup := by
    refine h₂.nodup.append h₁.nodup fun handle hlater hmade => ?_
    have hvalid := (h₁.isValid_iff handle).mpr (.inr hmade)
    rw [h₂.fresh handle hlater] at hvalid
    cases hvalid
  fresh handle hmem := by
    rcases List.mem_append.mp hmem with hlater | hmade
    · have hinvalid := h₂.fresh handle hlater
      rw [← Bool.not_eq_true, h₁.isValid_iff] at hinvalid
      simpa using fun h => hinvalid (.inl h)
    · exact h₁.fresh handle hmade
  isValid_iff handle := by
    rw [h₂.isValid_iff, h₁.isValid_iff, List.mem_append, or_assoc, or_comm (a := handle ∈ made)]
  size_eq := by
    rw [h₂.size_eq, h₁.size_eq, List.length_append]
    omega
  allocated_eq := by
    rw [h₂.allocated_eq, h₁.allocated_eq, List.length_append]
    omega
  ages := h₁.ages.trans h₂.ages

theorem setState (heap : Heap) (handle : Handle) {state : SlotState} (hstate : state ≠ .free) :
    heap.Makes (heap.setState handle state) [] where
  nodup := List.nodup_nil
  fresh := List.forall_mem_nil _
  isValid_iff other := by simp [isValid_setState hstate]
  size_eq := by
    unfold Heap.setState
    split <;> rfl
  allocated_eq := by
    unfold Heap.setState
    split <;> rfl
  ages := .setState heap handle hstate

theorem lend (heap : Heap) (handle : Handle) : heap.Makes (heap.lend handle) [] :=
  setState heap handle (by simp)

theorem restore (heap : Heap) (handle : Handle) (component : Component) :
    heap.Makes (heap.restore handle component) [] := by
  unfold Heap.restore
  split
  · exact setState heap handle (by simp)
  · exact refl heap

theorem set (heap : Heap) (handle : Handle) (component : Component) :
    heap.Makes (heap.set handle component) [] := by
  unfold Heap.set
  split
  · exact setState heap handle (by simp)
  · exact refl heap

theorem modifyNode (heap : Heap) (handle : Handle) (change : Node → Node) :
    heap.Makes (heap.modifyNode handle change) [] := by
  unfold Heap.modifyNode
  split
  · exact set heap handle _
  · exact refl heap

theorem alloc {heap : Heap} (hheap : heap.WellFormed) (component : Component) :
    heap.Makes (heap.alloc component).2 [(heap.alloc component).1] where
  nodup := List.nodup_singleton _
  fresh := List.forall_mem_singleton.mpr (hheap.isValid_alloc_fst component)
  isValid_iff handle := by
    rw [hheap.isValid_alloc, Bool.or_eq_true, decide_eq_true_iff, List.mem_singleton, or_comm]
    exact or_congr_right eq_comm
  size_eq := by
    unfold Heap.alloc
    split <;> rfl
  allocated_eq := by
    unfold Heap.alloc
    split <;> rfl
  ages := .alloc hheap component

end Makes

theorem Grows.exists_makes {heap larger : Heap} (hgrows : heap.Grows larger)
    (hheap : heap.WellFormed) : ∃ made, heap.Makes larger made := by
  induction hgrows with
  | refl => exact ⟨[], .refl heap⟩
  | alloc hgrows component _ ih =>
      obtain ⟨made, hmade⟩ := ih
      exact ⟨_, hmade.trans (.alloc (hgrows.wellFormed hheap) component)⟩

theorem get?_modifyNode (heap : Heap) (handle : Handle) (change : Node → Node) (other : Handle) :
    (heap.modifyNode handle change).get? other = heap.get? other ∨
      other = handle ∧ ∃ node, heap.get? handle = some (.node node) ∧
        (heap.modifyNode handle change).get? handle = some (.node (change node)) := by
  unfold modifyNode
  split
  · next node hget =>
      rw [get?_set, get?_set, if_pos rfl, hget]
      by_cases hsame : handle = other
      · exact .inr ⟨hsame.symm, node, rfl, rfl⟩
      · exact .inl (if_neg hsame)
  · exact .inl rfl

/-- A heap becomes another by making components and by edits of nodes. -/
structure Alters (edits : Handle → Node → Node → Prop) (before after : Heap) : Prop where
  exists_makes : ∃ made, before.Makes after made
  get? : ∀ handle, before.isValid handle = true →
    after.get? handle = before.get? handle ∨
      ∃ node edited, before.get? handle = some (.node node) ∧
        after.get? handle = some (.node edited) ∧ edits handle node edited

namespace Alters

variable {edits : Handle → Node → Node → Prop} {before after : Heap}

theorem of_grows (hgrows : before.Grows after) (hbefore : before.WellFormed) :
    before.Alters edits after where
  exists_makes := hgrows.exists_makes hbefore
  get? _ hvalid := .inl (hgrows.get?_eq hbefore hvalid)

end Alters

end Heap

/-- What a call of a method may change in a node that is not its receiver. -/
inductive Call.Edits (before : Heap) (this : Handle) (call : Call) (handle : Handle) :
    Node → Node → Prop
  /-- The child that is appended gets the receiver as its parent. -/
  | appended (hcall : call = ⟨"appendchild", [.object handle]⟩) (node : Node) :
      Edits before this call handle node { node with parent := some this }
  /-- The parent that it had before loses it. -/
  | left {child : Handle} {childNode : Node} (hcall : call = ⟨"appendchild", [.object child]⟩)
      (hchild : before.get? child = some (.node childNode))
      (hparent : childNode.parent = some handle) (node : Node) :
      Edits before this call handle node
        { node with children := node.children.filter (· != child) }
  /-- The child that is removed has no parent any more. -/
  | removed (hcall : call = ⟨"removechild", [.object handle]⟩) (node : Node) :
      Edits before this call handle node { node with parent := none }

namespace Node

variable {heap : Heap} {this child : Handle} {node : Node} {effect : Effect Node}

theorem heap_of_appendChild (happend : node.appendChild heap this child = .ok effect) :
    effect.heap = heap ∨ ∃ childNode, heap.get? child = some (.node childNode) ∧
      effect.heap = (adopt heap this node child childNode.parent).2 := by
  unfold appendChild append at happend
  simp only [Procedure.outcome_own, Procedure.outcome_heap, Procedure.outcome_ite] at happend
  split at happend
  · cases happend
    exact .inl rfl
  split at happend
  · cases happend
    exact .inl rfl
  split at happend
  · next childNode hget =>
      rw [Procedure.outcome_carryOut] at happend
      cases happend
      exact .inr ⟨childNode, hget, rfl⟩
  · cases happend
  · cases happend
    exact .inl rfl

/-- A child that moves first leaves its parent, which loses it; then it gets a new one. -/
theorem exists_adopt (heap : Heap) (this : Handle) (node : Node) (child : Handle)
    (parent : Option Handle) :
    ∃ left : Heap, heap.Makes left [] ∧
      (adopt heap this node child parent).2 =
        left.modifyNode child (fun own => { own with parent := some this }) ∧
      ∀ handle, left.get? handle = heap.get? handle ∨
        parent = some handle ∧ ∃ own, heap.get? handle = some (.node own) ∧
          left.get? handle = some (.node (own.withoutChild child)) := by
  cases parent with
  | none => exact ⟨heap, .refl heap, rfl, fun handle => .inl rfl⟩
  | some other =>
      by_cases hother : other = this
      · refine ⟨heap, .refl heap, ?_, fun handle => .inl rfl⟩
        simp only [adopt, if_pos hother]
      · refine ⟨_, .modifyNode heap other (·.withoutChild child), ?_, fun handle => ?_⟩
        · simp only [adopt, if_neg hother]
        · rcases heap.get?_modifyNode other (·.withoutChild child) handle with hsame | ⟨rfl, hnode⟩
          · exact .inl hsame
          · exact .inr ⟨rfl, hnode⟩

theorem makes_appendChild (happend : node.appendChild heap this child = .ok effect) :
    heap.Makes effect.heap [] := by
  rcases heap_of_appendChild happend with hsame | ⟨childNode, -, hmoved⟩
  · rw [hsame]
    exact .refl heap
  · obtain ⟨left, hleft, hadopt, -⟩ := exists_adopt heap this node child childNode.parent
    rw [hmoved, hadopt]
    exact hleft.trans (.modifyNode left child _)

/-- Appending a child changes the child and the parent that it had before, unless these are one. -/
theorem get?_appendChild (happend : node.appendChild heap this child = .ok effect)
    (hdiffer : ∀ childNode, heap.get? child = some (.node childNode) →
      childNode.parent ≠ some child) (handle : Handle) :
    effect.heap.get? handle = heap.get? handle ∨
      ∃ own edited, heap.get? handle = some (.node own) ∧
        effect.heap.get? handle = some (.node edited) ∧
        Call.Edits heap this ⟨"appendchild", [.object child]⟩ handle own edited := by
  rcases heap_of_appendChild happend with hsame | ⟨childNode, hchild, hmoved⟩
  · rw [hsame]
    exact .inl rfl
  obtain ⟨left, -, hadopt, hleft⟩ := exists_adopt heap this node child childNode.parent
  rw [hmoved, hadopt]
  rcases left.get?_modifyNode child (fun own => { own with parent := some this }) handle with
    hsame | ⟨rfl, own, hown, hafter⟩
  · rw [hsame]
    rcases hleft handle with hsame | ⟨hparent, own, hown, hafter⟩
    · exact .inl hsame
    · exact .inr ⟨own, _, hown, hafter, .left rfl hchild hparent own⟩
  · rcases hleft handle with hsame | ⟨hparent, -⟩
    · exact .inr ⟨own, _, hsame ▸ hown, hafter, .appended rfl own⟩
    · exact absurd hparent (hdiffer childNode hchild)

theorem makes_removeChild (heap : Heap) (node : Node) (child : Handle) :
    heap.Makes (node.removeChild heap child).heap [] := by
  unfold removeChild
  split
  · exact .modifyNode heap child _
  · exact .refl heap

theorem get?_removeChild (heap : Heap) (this : Handle) (node : Node) (child handle : Handle) :
    (node.removeChild heap child).heap.get? handle = heap.get? handle ∨
      ∃ own edited, heap.get? handle = some (.node own) ∧
        (node.removeChild heap child).heap.get? handle = some (.node edited) ∧
        Call.Edits heap this ⟨"removechild", [.object child]⟩ handle own edited := by
  unfold removeChild
  split
  · rcases heap.get?_modifyNode child (fun own => { own with parent := none }) handle with
      hsame | ⟨rfl, own, hown, hafter⟩
    · exact .inl hsame
    · exact .inr ⟨own, _, hown, hafter, .removed rfl own⟩
  · exact .inl rfl

end Node

namespace Heap.Alters

theorem of_createChild {heap : Heap} (hheap : heap.WellFormed) {catalog : NodeCatalog}
    {this : Handle} {node : Node} {kind : String} {effect : Effect Node}
    {edits : Handle → Node → Node → Prop}
    (hcreate : NodeMethod.createChild heap catalog this node kind = .ok effect) :
    heap.Alters edits effect.heap := by
  cases hdraft : catalog.draft kind with
  | error e =>
      rw [NodeMethod.createChild_of_error hdraft] at hcreate
      cases hcreate
      exact .of_grows .refl hheap
  | ok draft =>
      have hmade := Makes.alloc hheap (.node draft.node)
      have hget := hheap.get?_alloc (.node draft.node)
      rcases halloc : heap.alloc (.node draft.node) with ⟨child, larger⟩
      rw [halloc] at hmade hget
      rw [NodeMethod.createChild_of_draft hdraft halloc] at hcreate
      obtain ⟨appended, happend, rfl⟩ := map_eq_ok_iff.mp hcreate
      have hroot : ∀ childNode, larger.get? child = some (.node childNode) →
          childNode.parent = none := by
        intro childNode hchild
        rw [hget, if_pos rfl] at hchild
        cases hchild
        exact congrArg Links.parent (catalog.links_draft hdraft)
      change heap.Alters edits appended.heap
      -- Appending edits the new node, which no old handle is, and the parent that it does not have.
      refine ⟨⟨_, hmade.trans (Node.makes_appendChild happend)⟩, fun handle hvalid => .inl ?_⟩
      have hold : child ≠ handle := by
        rintro rfl
        rw [hmade.fresh _ (List.mem_singleton_self _)] at hvalid
        cases hvalid
      rcases Node.get?_appendChild happend
        (fun childNode hchild => by simp [hroot childNode hchild]) handle with
        hsame | ⟨own, edited, -, -, hedit⟩
      · rw [hsame, hget, if_neg hold]
      · cases hedit with
        | appended hcall => cases hcall; exact absurd rfl hold
        | left hcall hchild hparent =>
            cases hcall
            rw [hroot _ hchild] at hparent
            cases hparent
        | removed hcall => exact absurd (congrArg Call.method hcall) (by simp)

end Heap.Alters

namespace Component

variable {heap : Heap} {catalog : NodeCatalog} {this : Handle} {call : Call} {component : Component}
variable {effect : Effect Component}

theorem kindName_of_call (hcall : component.call heap catalog this call = .ok effect) :
    effect.state.kindName = component.kindName := by
  cases component with
  | host object => cases hcall
  | _ =>
      simp only [call_array, call_table, call_list, call_timespan, call_regex, call_text,
        call_element, call_elementList, call_node] at hcall
      obtain ⟨_, -, rfl⟩ := map_eq_ok_iff.mp hcall
      rfl

theorem alters_of_call (hheap : heap.WellFormed)
    (hdiffer : ∀ child childNode, heap.get? child = some (.node childNode) →
      childNode.parent ≠ some child)
    (hcall : component.call heap catalog this call = .ok effect) :
    heap.Alters (call.Edits heap this) effect.heap := by
  cases hlinks : component.links? with
  | none => exact .of_grows (grows_of_call hlinks hcall).1 hheap
  | some own =>
      cases component with
      | node node =>
          rw [call_node] at hcall
          obtain ⟨effect, hmethod, rfl⟩ := map_eq_ok_iff.mp hcall
          cases NodeMethod.outcome_of_call hmethod with
          | quiet hgrows => exact .of_grows hgrows hheap
          | append child happend hcall =>
              subst hcall
              exact ⟨⟨[], Node.makes_appendChild happend⟩,
                fun handle _ => Node.get?_appendChild happend (hdiffer child) handle⟩
          | create kind hcreate => exact .of_createChild hheap hcreate
          | remove child hremove hcall =>
              subst hcall hremove
              exact ⟨⟨[], Node.makes_removeChild heap node child⟩,
                fun handle _ => Node.get?_removeChild heap this node child handle⟩
      | _ => cases hlinks

end Component

theorem Call.Edits.of_lend {heap : Heap} {this : Handle} {call : Call} {handle : Handle}
    {node edited : Node} (hedit : call.Edits (heap.lend this) this handle node edited) :
    call.Edits heap this handle node edited := by
  cases hedit with
  | appended hcall => exact .appended hcall node
  | left hcall hchild hparent => exact .left hcall (Heap.get?_of_get?_lend hchild).2 hparent node
  | removed hcall => exact .removed hcall node

namespace Heap

/-- What a call of a method leaves of a heap: its receiver is of the same kind as before, every
other component is as it was but for the edits that the call may make, nothing is released, and what
is new was made by the call. -/
structure Survives (before : Heap) (this : Handle) (call : Call) (after : Heap) : Prop where
  receiver : ∃ old new, before.get? this = some old ∧ after.get? this = some new ∧
    new.kindName = old.kindName
  others : ∀ {handle : Handle} {component : Component}, handle ≠ this →
    before.get? handle = some component →
    after.get? handle = some component ∨
      ∃ node edited, component = .node node ∧ after.get? handle = some (.node edited) ∧
        call.Edits before this handle node edited
  exists_makes : ∃ made, before.Makes after made

/-- A receiver that is given back after what was done without it is all that changes by that. -/
theorem Alters.get?_restore {heap after : Heap} {this : Handle} {component : Component}
    {edits : Handle → Node → Node → Prop} (halters : (heap.lend this).Alters edits after)
    (hget : heap.get? this = some component) (state : Component) (other : Handle) :
    (after.restore this state).get? other =
      if this = other then some state else after.get? other := by
  obtain ⟨made, hmade⟩ := halters.exists_makes
  have hthis : (heap.lend this).isValid this = true := by
    rw [isValid_lend, isValid_of_get? hget]
  have hout : after.get? this = none := by
    rcases halters.get? this hthis with hsame | ⟨node, edited, hnode, -⟩
    · rw [hsame, get?_lend_self]
    · rw [get?_lend_self] at hnode
      cases hnode
  exact Heap.get?_restore ((hmade.isValid_iff this).mpr (.inl hthis)) hout state other

/-- What a call does while its receiver is out of the heap, it does to the heap with the receiver
given back. -/
theorem Survives.of_alters {heap after : Heap} {this : Handle} {call : Call}
    {component state : Component} (hget : heap.get? this = some component)
    (halters : (heap.lend this).Alters (call.Edits (heap.lend this) this) after)
    (hkind : state.kindName = component.kindName) :
    heap.Survives this call (after.restore this state) := by
  obtain ⟨made, hmade⟩ := halters.exists_makes
  have hback := halters.get?_restore hget state
  constructor
  · exact ⟨component, state, hget, by rw [hback, if_pos rfl], hkind⟩
  · intro handle other hother hcomponent
    have hlent : (heap.lend this).get? handle = some other := by
      rw [get?_lend, if_neg (Ne.symm hother), hcomponent]
    rw [hback, if_neg (Ne.symm hother)]
    rcases halters.get? handle (isValid_of_get? hlent) with
      hsame | ⟨node, edited, hnode, hedited, hedit⟩
    · exact .inl (hsame.trans hlent)
    · rw [hlent] at hnode
      exact .inr ⟨node, edited, Option.some.inj hnode, hedited, hedit.of_lend⟩
  · have hlentMade := (Makes.lend heap this).trans hmade
    exact ⟨_, hlentMade.trans (.restore after this state)⟩

theorem Scripted.alters_of_call {heap : Heap} (hheap : heap.Scripted) {catalog : NodeCatalog}
    {this : Handle} {call : Call} {component : Component} {effect : Effect Component}
    (hcall : component.call (heap.lend this) catalog this call = .ok effect) :
    (heap.lend this).Alters (call.Edits (heap.lend this) this) effect.heap := by
  have hforested := hheap.forested
  -- No node is its own parent, so that a child and the parent it leaves are two components.
  have hdiffer : ∀ child childNode, (heap.lend this).get? child = some (.node childNode) →
      childNode.parent ≠ some child := by
    intro child childNode hchild hparent
    have hlinks := links_of_get? (get?_of_get?_lend hchild).2
    exact hforested.forest.parent_ne ((LinkMap.up_of_eq hlinks).mpr hparent) rfl
  exact Component.alters_of_call (hforested.wellFormed.lend this) hdiffer hcall

/-- A method call touches only what it names. -/
theorem survives_callMethod {heap : Heap} (hheap : heap.Scripted) {catalog : NodeCatalog}
    {this : Handle} {method : String} {arguments : List Value} {value : Value}
    (hresult : (heap.callMethod catalog this method arguments).result = .ok value) :
    heap.Survives this ⟨Name.key method, arguments⟩
      (heap.callMethod catalog this method arguments).heap := by
  cases hget : heap.get? this with
  | none =>
      rw [callMethod_of_none hget] at hresult
      cases hresult
  | some component =>
    cases hcall : component.call (heap.lend this) catalog this ⟨Name.key method, arguments⟩ with
    | error e =>
        rw [callMethod_of_error hget hcall] at hresult
        cases hresult
    | ok effect =>
        rw [callMethod_of_ok hget hcall]
        exact .of_alters hget (hheap.alters_of_call hcall) (Component.kindName_of_call hcall)

/-- A child that moves from one parent to another. -/
theorem survives_callMethod_of_move :
    let first : Handle := ⟨⟨0⟩, 0, 0⟩
    let second : Handle := ⟨⟨0⟩, 1, 0⟩
    let child : Handle := ⟨⟨0⟩, 2, 0⟩
    let plain := Component.node plainNode
    let nodes := ((((Heap.empty ⟨0⟩).alloc plain).2.alloc plain).2.alloc plain).2
    let heap := (nodes.callMethod .empty first "appendChild" [.object child]).heap
    let moved := heap.callMethod .empty second "AppendChild" [.object child]
    heap.Scripted ∧ moved.result = .ok (.boolean true) ∧
      heap.Survives second ⟨Name.key "AppendChild", [.object child]⟩ moved.heap := by
  intro first second child plain nodes heap moved
  have hnodes : nodes.Scripted :=
    .create (.create (.create (.empty ⟨0⟩ 0) Registry.all_makesUnlinked_builtin create_plainNode)
      Registry.all_makesUnlinked_builtin create_plainNode) Registry.all_makesUnlinked_builtin
      create_plainNode
  have hheap : heap.Scripted := hnodes.callMethod .empty first "appendChild" [.object child]
  have hresult : moved.result = .ok (.boolean true) := by
    dsimp only [moved, heap, nodes, plain, first, second, child]
    decide +kernel
  exact ⟨hheap, hresult, survives_callMethod hheap hresult⟩

end Heap

end BrightScript
