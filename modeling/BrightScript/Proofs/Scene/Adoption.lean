import BrightScript.Proofs.Method.Footprint
import BrightScript.Proofs.Scene.Search

namespace BrightScript

namespace LinkMap

theorem Forest.exists_of_transGen {links : LinkMap} (hforest : links.Forest) {first last : Handle}
    (hway : Relation.TransGen links.Up first last) : ∃ own, links last = some own := by
  obtain ⟨below, -, hup⟩ := Relation.TransGen.tail'_iff.mp hway
  obtain ⟨own, hown, -⟩ := hforest.down_of_up hup
  exact ⟨own, hown⟩

theorem Forest.not_transGen_of_childless {links : LinkMap} (hforest : links.Forest)
    {first last : Handle} {own : Links} (hlast : links last = some own)
    (hchildless : own.children = []) : ¬ Relation.TransGen links.Up first last := by
  intro hway
  obtain ⟨below, -, hup⟩ := Relation.TransGen.tail'_iff.mp hway
  have hmem := (down_of_eq hlast).mp (hforest.down_of_up hup)
  rw [hchildless] at hmem
  cases hmem

end LinkMap

theorem Node.appendChild_eq (heap : Heap) (this : Handle) (node : Node) (child : Handle) :
    node.appendChild heap this child =
      if heap.isAbove child [] node.parent = true ∨ child = this then
        .ok ⟨node, heap, .boolean false, []⟩
      else match heap.get? child with
        | some (.node childNode) =>
          let adopted := adopt heap this node child childNode.parent
          .ok ⟨adopted.1, adopted.2, .boolean true, []⟩
        | some other => .error (childError other)
        | none => .ok ⟨node, heap, .boolean false, []⟩ := by
  unfold appendChild append
  simp only [Procedure.outcome_own, Procedure.outcome_heap, Procedure.outcome_ite]
  split
  · next habove =>
      rw [if_pos (.inl habove)]
      rfl
  next habove =>
  split
  · next hself =>
      rw [if_pos (.inr hself)]
      rfl
  next hother =>
  rw [if_neg (not_or.mpr ⟨habove, hother⟩)]
  cases heap.get? child with
  | none => rfl
  | some component => cases component <;> rfl

theorem NodeMethod.call_appendChild (heap : Heap) (catalog : NodeCatalog) (this : Handle)
    (node : Node) (child : Handle) :
    NodeMethod.call heap catalog this node ⟨"appendchild", [.object child]⟩ =
      (node.appendChild heap this child).mapError
        (Call.fail ⟨"appendchild", [.object child]⟩) := by
  simp only [NodeMethod.call, NodeMethod.perform, Procedure.outcome_check]
  exact Procedure.outcome_adaptExcept ..

theorem NodeMethod.call_createChild (heap : Heap) (catalog : NodeCatalog) (this : Handle)
    (node : Node) (kind : String) :
    NodeMethod.call heap catalog this node ⟨"createchild", [.text kind]⟩ =
      (createChild heap catalog this node kind).mapError
        (Call.fail ⟨"createchild", [.text kind]⟩) := by
  simp only [NodeMethod.call, NodeMethod.perform, Procedure.outcome_check]
  exact Procedure.outcome_adaptExcept ..

namespace Heap

theorem get?_modifyNode_of_node {heap : Heap} {handle : Handle} {node : Node}
    (hget : heap.get? handle = some (.node node)) (change : Node → Node) (other : Handle) :
    (heap.modifyNode handle change).get? other =
      if handle = other then some (.node (change node)) else heap.get? other := by
  simp only [modifyNode, hget, get?_set, Option.map_some]

/-- A child becomes the last child of a node: it leaves the parent that it had, the other children
keep their order, and nothing else changes. -/
structure Adopted (before : Heap) (this : Handle) (node : Node) (child : Handle) (childNode : Node)
    (after : Heap) : Prop where
  get?_this : after.get? this =
    some (.node { node with children := node.children.filter (· != child) ++ [child] })
  get?_child : after.get? child = some (.node { childNode with parent := some this })
  get?_parent : ∀ other, childNode.parent = some other → other ≠ this →
    ∃ otherNode, before.get? other = some (.node otherNode) ∧
      after.get? other =
        some (.node { otherNode with children := otherNode.children.filter (· != child) })
  get?_other : ∀ handle, handle ≠ this → handle ≠ child → childNode.parent ≠ some handle →
    after.get? handle = before.get? handle
  makes : before.Makes after []

theorem Adopted.of_lend {heap after : Heap} {this child : Handle} {node childNode : Node}
    (hadopted : (heap.lend this).Adopted this node child childNode after) :
    heap.Adopted this node child childNode after where
  get?_this := hadopted.get?_this
  get?_child := hadopted.get?_child
  get?_parent other hparent hother := by
    obtain ⟨otherNode, hget, hafter⟩ := hadopted.get?_parent other hparent hother
    exact ⟨otherNode, (get?_of_get?_lend hget).2, hafter⟩
  get?_other handle hthis hchild hparent := by
    rw [hadopted.get?_other handle hthis hchild hparent, get?_lend, if_neg (Ne.symm hthis)]
  makes := (Makes.lend heap this).trans hadopted.makes

namespace LentOut

variable {heap : Heap} {this child : Handle} {all : LinkMap} {node childNode : Node}

/-- The walk up from the parent of a node that is out of the heap meets just the nodes above it. -/
theorem isAbove_iff (hheap : heap.LentOut this all) (hforest : all.Forest)
    (hthis : all this = some node.links) (target : Handle) :
    heap.isAbove target [] node.parent = true ↔ Relation.TransGen all.Up this target := by
  refine ⟨fun habove => ?_, hheap.isAbove_of_transGen hforest hthis⟩
  cases hparent : node.parent with
  | none =>
      rw [hparent, isAbove] at habove
      cases habove
  | some parent =>
      rw [hparent, Heap.isAbove_iff (hheap.acyclic hforest) target [] parent (by simp)] at habove
      have hup : all.Up this parent := (LinkMap.up_of_eq hthis).mpr hparent
      exact .head' hup (Relation.ReflTransGen.mono (fun _ _ => hheap.up_of_up) _ _ habove)

theorem exists_left (hheap : heap.LentOut this all) (hforest : all.Forest) (node : Node)
    (hchild : heap.get? child = some (.node childNode)) :
    ∃ left : Heap, heap.Makes left [] ∧
      (Node.adopt heap this node child childNode.parent).2 =
        left.modifyNode child (fun own => { own with parent := some this }) ∧
      (∀ other, childNode.parent = some other → other ≠ this →
        ∃ otherNode, heap.get? other = some (.node otherNode) ∧
          left.get? other = some (.node (otherNode.withoutChild child))) ∧
      ∀ handle, childNode.parent ≠ some handle ∨ handle = this →
        left.get? handle = heap.get? handle := by
  cases hparent : childNode.parent with
  | none => exact ⟨heap, .refl heap, rfl, nofun, fun handle _ => rfl⟩
  | some other =>
      by_cases hother : other = this
      · subst hother
        refine ⟨heap, .refl heap, ?_, ?_, fun handle _ => rfl⟩
        · simp only [Node.adopt, if_true]
        · rintro _ ⟨⟩ hdiffer
          exact absurd rfl hdiffer
      · -- The parent is a node: it lists the child.
        have hup : all.Up child other :=
          ⟨childNode.links, hheap.links_of_links (links_of_get? hchild), hparent⟩
        obtain ⟨own, hown, -⟩ := hforest.down_of_up hup
        rw [← hheap.links_eq other (Ne.symm hother)] at hown
        obtain ⟨otherNode, hget, -⟩ := links_eq_some_iff.mp hown
        have hleft := get?_modifyNode_of_node hget (·.withoutChild child)
        refine ⟨_, .modifyNode heap other (·.withoutChild child), ?_, ?_, fun handle hhandle => ?_⟩
        · simp only [Node.adopt, if_neg hother]
        · rintro _ ⟨⟩ -
          exact ⟨otherNode, hget, by rw [hleft, if_pos rfl]⟩
        · have hdiffer : other ≠ handle := by
            rintro rfl
            exact hhandle.elim (absurd rfl) hother
          rw [hleft, if_neg hdiffer]

theorem adopted (hheap : heap.LentOut this all) (hforest : all.Forest)
    (hthis : all this = some node.links) (hchild : heap.get? child = some (.node childNode)) :
    let moved := Node.adopt heap this node child childNode.parent
    heap.Adopted this node child childNode (moved.2.restore this (.node moved.1)) := by
  intro moved
  have hchildLinks : all child = some childNode.links :=
    hheap.links_of_links (links_of_get? hchild)
  have hdiffer : this ≠ child := by
    rintro rfl
    rw [hheap.get?_eq_none] at hchild
    cases hchild
  have hroot : childNode.parent ≠ some child := by
    intro hparent
    exact hforest.parent_ne ((LinkMap.up_of_eq hchildLinks).mpr hparent) rfl
  obtain ⟨left, hmakes, hadopt, hparent, hother⟩ := hheap.exists_left hforest node hchild
  have hstill : left.get? child = some (.node childNode) :=
    (hother child (.inl hroot)).trans hchild
  have hget : ∀ handle, moved.2.get? handle =
      if child = handle then some (.node { childNode with parent := some this })
      else left.get? handle := by
    intro handle
    rw [show moved.2 = _ from hadopt]
    exact get?_modifyNode_of_node hstill _ handle
  have hmade : heap.Makes moved.2 [] := by
    rw [show moved.2 = _ from hadopt]
    exact hmakes.trans (.modifyNode left child _)
  have hvalid : moved.2.isValid this = true := (hmade.isValid_iff this).mpr (.inl hheap.isValid)
  have hout : moved.2.get? this = none := by
    rw [hget, if_neg (Ne.symm hdiffer), hother this (.inr rfl), hheap.get?_eq_none]
  have hback := get?_restore hvalid hout (.node moved.1)
  -- Where the child had another parent, it is not in the list that it is taken from.
  have hchildren : moved.1 =
      { node with children := node.children.filter (· != child) ++ [child] } := by
    by_cases hown : childNode.parent = some this
    · simp only [moved, Node.adopt, if_pos hown, Node.withoutChild]
    · have hkept : node.children.filter (· != child) = node.children :=
        congrArg Links.children (hforest.without_eq hchildLinks hthis hown)
      simp only [moved, Node.adopt, if_neg hown, hkept]
  constructor
  · rw [hback, if_pos rfl, hchildren]
  · rw [hback, if_neg hdiffer, hget, if_pos rfl]
  · intro other hleft hnot
    obtain ⟨otherNode, hotherNode, hafter⟩ := hparent other hleft hnot
    have hdistinct : child ≠ other := by
      rintro rfl
      exact hroot hleft
    exact ⟨otherNode, hotherNode, by
      rw [hback, if_neg (Ne.symm hnot), hget, if_neg hdistinct, hafter]
      rfl⟩
  · intro handle hnotThis hnotChild hnotParent
    rw [hback, if_neg (Ne.symm hnotThis), hget, if_neg (Ne.symm hnotChild),
      hother handle (.inl hnotParent)]
  · exact hmade.trans (.restore moved.2 this _)

theorem appendChild_of_unlinked (hheap : heap.LentOut this all) (hforest : all.Forest)
    (hthis : all this = some node.links) (hchild : heap.get? child = some (.node childNode))
    (hunlinked : childNode.links = .none) :
    ∃ effect, node.appendChild heap this child = .ok effect ∧ effect.warnings = [] ∧
      heap.Adopted this node child childNode (effect.heap.restore this (.node effect.state)) ∧
      node.children.filter (· != child) = node.children := by
  have hchildLinks : all child = some .none := by
    rw [hheap.links_of_links (links_of_get? hchild), hunlinked]
  have hdiffer : child ≠ this := by
    rintro rfl
    rw [hheap.get?_eq_none] at hchild
    cases hchild
  have habove : ¬ (heap.isAbove child [] node.parent = true ∨ child = this) := by
    rw [hheap.isAbove_iff hforest hthis]
    exact not_or.mpr ⟨hforest.not_transGen_of_childless hchildLinks rfl, hdiffer⟩
  have happend := Node.appendChild_eq heap this node child
  rw [if_neg habove, hchild] at happend
  exact ⟨_, happend, rfl, hheap.adopted hforest hthis hchild,
    congrArg Links.children (hforest.without_eq hchildLinks hthis nofun)⟩

end LentOut

/-- A new node becomes the last child of a node, and nothing else changes. -/
structure Created (before : Heap) (this : Handle) (node : Node) (child : Handle) (childNode : Node)
    (after : Heap) : Prop where
  get?_this : after.get? this = some (.node { node with children := node.children ++ [child] })
  get?_child : after.get? child = some (.node { childNode with parent := some this })
  get?_other : ∀ handle, handle ≠ this → handle ≠ child → after.get? handle = before.get? handle
  makes : before.Makes after [child]

theorem Created.of_lend {heap after : Heap} {this child : Handle} {node childNode : Node}
    (hcreated : (heap.lend this).Created this node child childNode after) :
    heap.Created this node child childNode after where
  get?_this := hcreated.get?_this
  get?_child := hcreated.get?_child
  get?_other handle hthis hchild := by
    rw [hcreated.get?_other handle hthis hchild, get?_lend, if_neg (Ne.symm hthis)]
  makes := by
    simpa using (Makes.lend heap this).trans hcreated.makes

theorem LentOut.created {heap : Heap} {this : Handle} {all : LinkMap} {node : Node}
    (hheap : heap.LentOut this all) (hforest : all.Forest) (hthis : all this = some node.links)
    {catalog : NodeCatalog} {kind : String} {draft : NodeDraft}
    (hdraft : catalog.draft kind = .ok draft) :
    ∃ child effect, NodeMethod.createChild heap catalog this node kind = .ok effect ∧
      effect.value = .object child ∧ effect.warnings = draft.warnings ∧
      heap.Created this node child draft.node (effect.heap.restore this (.node effect.state)) := by
  have hlinks : draft.node.links = .none := catalog.links_draft hdraft
  have hfresh := hheap.wellFormed.isValid_alloc_fst (.node draft.node)
  have hget := hheap.wellFormed.get?_alloc (.node draft.node)
  have hmade := Makes.alloc hheap.wellFormed (.node draft.node)
  have hlarger : (heap.alloc (.node draft.node)).2.LentOut this
      (all.insert (heap.alloc (.node draft.node)).1) := hheap.alloc (congrArg some hlinks)
  rcases halloc : heap.alloc (.node draft.node) with ⟨child, larger⟩
  rw [halloc] at hfresh hget hmade hlarger
  have hcreate : NodeMethod.createChild heap catalog this node kind = _ :=
    NodeMethod.createChild_of_draft hdraft halloc
  have hdiffer : child ≠ this := by
    rintro rfl
    rw [hheap.isValid] at hfresh
    cases hfresh
  have hunlinked : all child = none := by
    rw [← hheap.links_eq child hdiffer.symm, links_eq_none_of_not_isValid hfresh]
  have hstill : all.insert child this = some node.links := by
    rw [LinkMap.insert, if_neg hdiffer, hthis]
  have hnew : larger.get? child = some (.node draft.node) := by rw [hget, if_pos rfl]
  have hroot : draft.node.parent = none := congrArg Links.parent hlinks
  obtain ⟨effect, happend, hquiet, hadopted, hkept⟩ :=
    hlarger.appendChild_of_unlinked (hforest.insert hunlinked) hstill hnew hlinks
  rw [happend] at hcreate
  refine ⟨child, _, hcreate, rfl, ?_, ?_⟩
  · exact (congrArg (draft.warnings ++ ·) hquiet).trans (List.append_nil _)
  constructor
  · rw [← hkept]
    exact hadopted.get?_this
  · exact hadopted.get?_child
  · intro handle hnotThis hnotChild
    rw [hadopted.get?_other handle hnotThis hnotChild (by simp [hroot]), hget,
      if_neg (Ne.symm hnotChild)]
  · exact hmade.trans hadopted.makes

section Calls

variable {heap : Heap} {this : Handle} {node : Node} {catalog : NodeCatalog} {method : String}

theorem callMethod_appendChild_of_ok (hthis : heap.get? this = some (.node node))
    (hmethod : Name.key method = "appendchild") {child : Handle} {effect : Effect Node}
    (happend : node.appendChild (heap.lend this) this child = .ok effect) :
    heap.callMethod catalog this method [.object child] =
      ⟨.ok effect.value, effect.heap.restore this (.node effect.state), effect.warnings⟩ := by
  have hcall := NodeMethod.call_appendChild (heap.lend this) catalog this node child
  rw [happend] at hcall
  exact callMethod_of_ok hthis (by rw [hmethod, Component.call_node, hcall]; rfl)

theorem callMethod_appendChild_of_error (hthis : heap.get? this = some (.node node))
    (hmethod : Name.key method = "appendchild") {child : Handle} {reason : String}
    (happend : node.appendChild (heap.lend this) this child = .error reason) :
    heap.callMethod catalog this method [.object child] =
      ⟨.error (.failed "appendchild" reason), heap, []⟩ := by
  have hcall := NodeMethod.call_appendChild (heap.lend this) catalog this node child
  rw [happend] at hcall
  exact callMethod_of_error hthis (by rw [hmethod, Component.call_node, hcall]; rfl)

theorem callMethod_createChild_of_ok (hthis : heap.get? this = some (.node node))
    (hmethod : Name.key method = "createchild") {kind : String} {effect : Effect Node}
    (hcreate : NodeMethod.createChild (heap.lend this) catalog this node kind = .ok effect) :
    heap.callMethod catalog this method [.text kind] =
      ⟨.ok effect.value, effect.heap.restore this (.node effect.state), effect.warnings⟩ := by
  have hcall := NodeMethod.call_createChild (heap.lend this) catalog this node kind
  rw [hcreate] at hcall
  exact callMethod_of_ok hthis (by rw [hmethod, Component.call_node, hcall]; rfl)

end Calls

/-- A component may become a child of a node if it is a node that is neither the other nor above
it. -/
def MayAppend (heap : Heap) (this child : Handle) : Prop :=
  (∃ childNode, heap.get? child = some (.node childNode)) ∧ child ≠ this ∧
    ¬ Relation.TransGen heap.links.Up this child

namespace Forested

variable {heap : Heap} {this child : Handle} {node : Node} {method : String}

theorem appendChild_of_mayAppend (hheap : heap.Forested)
    (hthis : heap.get? this = some (.node node)) (catalog : NodeCatalog)
    (hmethod : Name.key method = "appendchild") (hmay : heap.MayAppend this child)
    {childNode : Node} (hchild : heap.get? child = some (.node childNode)) :
    ∃ after, heap.callMethod catalog this method [.object child] =
        ⟨.ok (.boolean true), after, []⟩ ∧ heap.Adopted this node child childNode after := by
  obtain ⟨-, hdiffer, hbelow⟩ := hmay
  have hlent := LentOut.lend hheap.wellFormed hthis
  have hlinks : heap.links this = some node.links := links_of_get? hthis
  have hstill : (heap.lend this).get? child = some (.node childNode) := by
    rw [get?_lend, if_neg (Ne.symm hdiffer), hchild]
  have habove : ¬ ((heap.lend this).isAbove child [] node.parent = true ∨ child = this) := by
    rw [hlent.isAbove_iff hheap.forest hlinks]
    exact not_or.mpr ⟨hbelow, hdiffer⟩
  have happend := Node.appendChild_eq (heap.lend this) this node child
  rw [if_neg habove, hstill] at happend
  exact ⟨_, callMethod_appendChild_of_ok hthis hmethod happend,
    (hlent.adopted hheap.forest hlinks hstill).of_lend⟩

theorem appendChild_refused (hheap : heap.Forested)
    (hthis : heap.get? this = some (.node node)) (catalog : NodeCatalog)
    (hmethod : Name.key method = "appendchild")
    (hrefused : child = this ∨ Relation.TransGen heap.links.Up this child ∨
      heap.get? child = none) :
    heap.callMethod catalog this method [.object child] = ⟨.ok (.boolean false), heap, []⟩ := by
  have hlent := LentOut.lend hheap.wellFormed hthis
  have hlinks : heap.links this = some node.links := links_of_get? hthis
  have happend : node.appendChild (heap.lend this) this child =
      .ok ⟨node, heap.lend this, .boolean false, []⟩ := by
    rw [Node.appendChild_eq]
    split
    · rfl
    next hmoves =>
    rw [hlent.isAbove_iff hheap.forest hlinks, not_or] at hmoves
    rcases hrefused with hself | habove | hreleased
    · exact absurd hself hmoves.2
    · exact absurd habove hmoves.1
    · rw [get?_lend, hreleased, ite_self]
  rw [callMethod_appendChild_of_ok hthis hmethod happend]
  exact congrArg (CallResult.mk _ · _) (restore_lend hthis)

theorem appendChild_of_not_node (hheap : heap.Forested)
    (hthis : heap.get? this = some (.node node)) (catalog : NodeCatalog)
    (hmethod : Name.key method = "appendchild") {component : Component}
    (hchild : heap.get? child = some component) (hother : ∀ other, component ≠ .node other) :
    heap.callMethod catalog this method [.object child] =
      ⟨.error (.failed "appendchild" (Node.childError component)), heap, []⟩ := by
  have hlent := LentOut.lend hheap.wellFormed hthis
  have hlinks : heap.links this = some node.links := links_of_get? hthis
  have hdiffer : child ≠ this := by
    rintro rfl
    rw [hthis] at hchild
    exact hother node (Option.some.inj hchild).symm
  have hbelow : ¬ Relation.TransGen heap.links.Up this child := by
    intro habove
    obtain ⟨own, hown⟩ := hheap.forest.exists_of_transGen habove
    obtain ⟨childNode, hget, -⟩ := links_eq_some_iff.mp hown
    rw [hchild] at hget
    exact hother childNode (Option.some.inj hget)
  refine callMethod_appendChild_of_error hthis hmethod ?_
  rw [Node.appendChild_eq, if_neg, get?_lend, if_neg (Ne.symm hdiffer), hchild]
  · cases component with
    | node childNode => exact absurd rfl (hother childNode)
    | _ => rfl
  · rw [hlent.isAbove_iff hheap.forest hlinks]
    exact not_or.mpr ⟨hbelow, hdiffer⟩

theorem createChild_of_draft (hheap : heap.Forested)
    (hthis : heap.get? this = some (.node node)) {catalog : NodeCatalog}
    (hmethod : Name.key method = "createchild") {kind : String} {draft : NodeDraft}
    (hdraft : catalog.draft kind = .ok draft) :
    ∃ child after, heap.callMethod catalog this method [.text kind] =
        ⟨.ok (.object child), after, draft.warnings⟩ ∧
      heap.Created this node child draft.node after := by
  have hlent := LentOut.lend hheap.wellFormed hthis
  obtain ⟨child, effect, hcreate, hvalue, hwarnings, hcreated⟩ :=
    hlent.created hheap.forest (links_of_get? hthis) hdraft
  refine ⟨child, _, ?_, hcreated.of_lend⟩
  rw [callMethod_createChild_of_ok hthis hmethod hcreate, hvalue, hwarnings]

end Forested

/-- Appending a child that may be one moves it, and changes nothing else. Otherwise nothing changes:
the call says no where the child is the receiver, is above it or was released, and fails where it is
no node. A child that is created is always appended. -/
theorem appendChild_moves {heap : Heap} (hheap : heap.Scripted) {this : Handle} {node : Node}
    (hthis : heap.get? this = some (.node node)) (catalog : NodeCatalog) :
    (∀ method child, Name.key method = "appendchild" →
      let call := heap.callMethod catalog this method [.object child]
      (call.result = .ok (.boolean true) ↔ heap.MayAppend this child) ∧
      (∀ childNode, heap.get? child = some (.node childNode) → heap.MayAppend this child →
        call.warnings = [] ∧ heap.Adopted this node child childNode call.heap) ∧
      (child = this ∨ Relation.TransGen heap.links.Up this child ∨ heap.get? child = none →
        call = ⟨.ok (.boolean false), heap, []⟩) ∧
      ∀ component, heap.get? child = some component → (∀ other, component ≠ .node other) →
        call = ⟨.error (.failed "appendchild" (Node.childError component)), heap, []⟩) ∧
    ∀ method kind draft, Name.key method = "createchild" → catalog.draft kind = .ok draft →
      ∃ child after, heap.callMethod catalog this method [.text kind] =
          ⟨.ok (.object child), after, draft.warnings⟩ ∧
        heap.Created this node child draft.node after := by
  have hforested := hheap.forested
  refine ⟨fun method child hmethod => ?_, fun method kind draft hmethod hdraft =>
    hforested.createChild_of_draft hthis hmethod hdraft⟩
  intro call
  have hrefused : child = this ∨ Relation.TransGen heap.links.Up this child ∨
      heap.get? child = none → call = ⟨.ok (.boolean false), heap, []⟩ :=
    hforested.appendChild_refused hthis catalog hmethod
  have hfails : ∀ component, heap.get? child = some component →
      (∀ other, component ≠ .node other) →
      call = ⟨.error (.failed "appendchild" (Node.childError component)), heap, []⟩ :=
    fun component hchild => hforested.appendChild_of_not_node hthis catalog hmethod hchild
  have hmoves : ∀ childNode, heap.get? child = some (.node childNode) →
      heap.MayAppend this child → ∃ after, call = ⟨.ok (.boolean true), after, []⟩ ∧
        heap.Adopted this node child childNode after :=
    fun childNode hchild hmay =>
      hforested.appendChild_of_mayAppend hthis catalog hmethod hmay hchild
  refine ⟨⟨fun htrue => ?_, fun hmay => ?_⟩, fun childNode hchild hmay => ?_, hrefused, hfails⟩
  · have hallowed : ¬ (child = this ∨ Relation.TransGen heap.links.Up this child ∨
        heap.get? child = none) := by
      intro hrefuse
      rw [hrefused hrefuse] at htrue
      cases htrue
    obtain ⟨hdiffer, hbelow, hlive⟩ := by simpa only [not_or] using hallowed
    obtain ⟨component, hchild⟩ := Option.ne_none_iff_exists'.mp hlive
    refine ⟨Classical.byContradiction fun hother => ?_, hdiffer, hbelow⟩
    have hnot : ∀ other, component ≠ .node other := by
      rintro other rfl
      exact hother ⟨other, hchild⟩
    rw [hfails component hchild hnot] at htrue
    cases htrue
  · obtain ⟨childNode, hchild⟩ := hmay.1
    obtain ⟨after, hcall, -⟩ := hmoves childNode hchild hmay
    rw [hcall]
  · obtain ⟨after, hcall, hadopted⟩ := hmoves childNode hchild hmay
    rw [hcall]
    exact ⟨rfl, hadopted⟩

/-- The title of the group moves to the scene. -/
theorem appendChild_moves_gallery :
    let call := gallery.callMethod .empty (galleryNode 0) "AppendChild" [.object (galleryNode 2)]
    call.result = .ok (.boolean true) ∧
    call.heap.links (galleryNode 0) =
      some ⟨[galleryNode 1, galleryNode 3, galleryNode 2], none⟩ ∧
    call.heap.links (galleryNode 1) = some ⟨[], some (galleryNode 0)⟩ ∧
    call.heap.links (galleryNode 2) = some ⟨[], some (galleryNode 0)⟩ := by
  intro call
  have hbelow : ¬ Relation.TransGen gallery.links.Up (galleryNode 0) (galleryNode 2) := by
    intro habove
    obtain ⟨parent, hup, -⟩ := Relation.TransGen.head'_iff.mp habove
    cases (LinkMap.up_of_eq (links_of_get? gallery_scene)).mp hup
  have hmay : gallery.MayAppend (galleryNode 0) (galleryNode 2) :=
    ⟨⟨_, gallery_inner⟩, by decide, hbelow⟩
  have hmethod : Name.key "AppendChild" = "appendchild" := by simp [Name.key_eq_iff]
  obtain ⟨htrue, hmoves, -, -⟩ :=
    (appendChild_moves scripted_gallery gallery_scene .empty).1 _ (galleryNode 2) hmethod
  obtain ⟨-, hadopted⟩ := hmoves _ gallery_inner hmay
  obtain ⟨groupNode, hgroup, hleft⟩ := hadopted.get?_parent (galleryNode 1) rfl (by decide)
  rw [gallery_group] at hgroup
  cases hgroup
  exact ⟨htrue.mpr hmay, links_of_get? hadopted.get?_this, links_of_get? hleft,
    links_of_get? hadopted.get?_child⟩

end Heap

end BrightScript
