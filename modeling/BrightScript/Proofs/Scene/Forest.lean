import BrightScript.Proofs.Component.Creation
import BrightScript.Proofs.Heap.Collection
import BrightScript.Proofs.Method.Failure
import BrightScript.Proofs.Scene.Walk

/-!
Scene-graph nodes form a forest with consistent links, whatever components programs create, whatever
methods they call with whatever arguments, and whenever garbage is collected. While a method of a
node runs, its node is out of the heap; each move of a child is therefore first described by the
links that there are once the node is back.
-/

namespace BrightScript

/-- The links of a node that a child has left. -/
def Links.without (own : Links) (child : Handle) : Links :=
  ⟨own.children.filter (· != child), own.parent⟩

namespace LinkMap

/-- The links where a node is in no list of children. -/
def without (links : LinkMap) (child : Handle) : LinkMap := fun handle =>
  (links handle).map fun own => own.without child

theorem Forest.without_eq {links : LinkMap} (hforest : links.Forest) {child handle : Handle}
    {childLinks own : Links} (hchild : links child = some childLinks)
    (hown : links handle = some own) (hparent : childLinks.parent ≠ some handle) :
    own.without child = own := by
  have hkept : own.children.filter (· != child) = own.children := ?_
  · rw [Links.without, hkept]
  rw [List.filter_eq_self]
  intro other hother
  rw [bne_iff_ne]
  rintro rfl
  have hup := hforest.up_of_down ((down_of_eq hown).mpr hother)
  exact hparent ((up_of_eq hchild).mp hup)

theorem Forest.parent_ne {links : LinkMap} (hforest : links.Forest) {child parent : Handle}
    (hup : links.Up child parent) : parent ≠ child := by
  rintro rfl
  exact hforest.acyclic parent (.single hup)

theorem Forest.down_acyclic {links : LinkMap} (hforest : links.Forest) (handle : Handle) :
    ¬ Relation.TransGen links.Down handle handle := by
  intro hcycle
  have hflip := Relation.TransGen.mono (fun _ _ => hforest.up_of_down) _ _ hcycle
  exact hforest.acyclic handle (Relation.transGen_swap.mp hflip)

end LinkMap

namespace Heap

theorem WellFormed.adopt {heap : Heap} (hheap : heap.WellFormed) (this : Handle) (node : Node)
    (child : Handle) (parent : Option Handle) :
    (Node.adopt heap this node child parent).2.WellFormed := by
  unfold Node.adopt
  refine WellFormed.modifyNode ?_ child _
  split
  · split
    · exact hheap
    · exact hheap.modifyNode _ _
  · exact hheap

namespace LentOut

theorem leave {heap : Heap} {this child : Handle} {all : LinkMap} (hheap : heap.LentOut this all)
    (hforest : all.Forest) {childLinks : Links} (hchild : all child = some childLinks) :
    (match childLinks.parent with
      | some other =>
        if other = this then heap else heap.modifyNode other fun node => node.withoutChild child
      | none => heap).LentOut this (all.without child) := by
  have hsame : ∀ handle, childLinks.parent ≠ some handle →
      all.without child handle = all handle := by
    intro handle hparent
    rw [LinkMap.without]
    cases hown : all handle with
    | none => rfl
    | some own => rw [Option.map_some, hforest.without_eq hchild hown hparent]
  cases hparent : childLinks.parent with
  | none =>
      refine { hheap with links_eq := fun handle hdiffer => ?_ }
      rw [hheap.links_eq handle hdiffer, hsame handle (by rw [hparent]; simp)]
  | some other =>
      by_cases hthis : other = this
      · subst hthis
        simp only [if_true]
        refine { hheap with links_eq := fun handle hdiffer => ?_ }
        rw [hheap.links_eq handle hdiffer, hsame handle (by rw [hparent]; simpa using hdiffer)]
      · simp only [hthis, if_false]
        have hleft := hheap.modifyNode (Ne.symm hthis) (·.withoutChild child)
          (·.without child) fun _ => rfl
        refine { hleft with links_eq := fun handle hdiffer => ?_ }
        rw [hleft.links_eq handle hdiffer]
        by_cases hother : other = handle
        · rw [if_pos hother, LinkMap.without]
        · rw [if_neg hother, hsame handle (by rw [hparent]; simpa using hother)]

/-- A child that moves below `this` is taken from its parent and becomes the last child. -/
theorem links_adopt {heap : Heap} {this child : Handle} {all : LinkMap}
    (hheap : heap.LentOut this all) (hforest : all.Forest) {node childNode : Node}
    (hthis : all this = some node.links)
    (hchild : all child = some childNode.links) (hdiffer : child ≠ this) :
    let adopted := Node.adopt heap this node child childNode.parent
    (adopted.2.restore this (.node adopted.1)).links = (all.detach child).attach this child := by
  intro adopted
  have hleft := hheap.leave hforest hchild
  have hmoved := hleft.modifyNode (Ne.symm hdiffer)
    (fun node => { node with parent := some this })
    (fun own => ⟨own.children, some this⟩) fun _ => rfl
  have hkept : (if childNode.parent = some this then node.withoutChild child else node).links =
      node.links.without child := by
    split
    · rfl
    · rename_i hother
      rw [hforest.without_eq hchild hthis hother]
  have hadopted : adopted.1.links =
      ⟨(node.links.without child).children ++ [child], (node.links.without child).parent⟩ := by
    rw [← hkept]
    rfl
  funext handle
  refine (hmoved.links_restore (.node adopted.1) handle).trans ?_
  by_cases hhandle : this = handle
  · subst hhandle
    rw [if_pos rfl, Component.links?, hadopted]
    simp [LinkMap.attach, LinkMap.detach, hthis, Links.without, Ne.symm hdiffer]
  · rw [if_neg hhandle]
    cases hown : all handle with
    | none => simp [LinkMap.without, LinkMap.attach, LinkMap.detach, hown]
    | some own =>
        by_cases hsame : child = handle
        · simp [LinkMap.without, LinkMap.attach, LinkMap.detach, hown, Links.without, hsame,
            Ne.symm hhandle]
        · simp [LinkMap.without, LinkMap.attach, LinkMap.detach, hown, Links.without, hsame,
            Ne.symm hhandle, Ne.symm hsame]

theorem links_removeChild {heap : Heap} {this child : Handle} {all : LinkMap}
    (hheap : heap.LentOut this all) (hforest : all.Forest) {node : Node}
    (hthis : all this = some node.links) (hmem : child ∈ node.children) :
    ((node.removeChild heap child).heap.restore this
      (.node (node.removeChild heap child).state)).links = all.detach child := by
  have hup : all.Up child this := hforest.up_of_down ((LinkMap.down_of_eq hthis).mpr hmem)
  have hdiffer : this ≠ child := hforest.parent_ne hup
  obtain ⟨childLinks, hchild, hparent⟩ := hup
  have hmoved := hheap.modifyNode hdiffer (fun node => { node with parent := none })
    (fun own => ⟨own.children, none⟩) fun _ => rfl
  have herased : node.children.erase child = node.children.filter (· != child) :=
    (hforest.nodup hthis).erase_eq_filter child
  rw [Node.removeChild, if_pos (List.contains_iff_mem.mpr hmem)]
  funext handle
  refine (hmoved.links_restore _ handle).trans ?_
  by_cases hhandle : this = handle
  · subst hhandle
    rw [if_pos rfl, Component.links?, Node.links, herased]
    simp [LinkMap.detach, hthis, Node.links, hdiffer]
  · rw [if_neg hhandle, LinkMap.detach]
    cases hown : all handle with
    | none => simp
    | some own =>
        have hother : childLinks.parent ≠ some handle := by
          rw [hparent]
          exact fun h => hhandle (Option.some.inj h)
        have hkept : own.children.filter (· != child) = own.children :=
          congrArg Links.children (hforest.without_eq hchild hown hother)
        by_cases hsame : child = handle
        · subst hsame
          simp [hkept]
        · simp [hsame, Ne.symm hsame, hkept]

theorem up_of_up {heap : Heap} {this : Handle} {all : LinkMap} (hheap : heap.LentOut this all)
    {child parent : Handle} (hup : heap.links.Up child parent) : all.Up child parent := by
  obtain ⟨own, hown, hparent⟩ := hup
  exact ⟨own, hheap.links_of_links hown, hparent⟩

theorem acyclic {heap : Heap} {this : Handle} {all : LinkMap} (hheap : heap.LentOut this all)
    (hforest : all.Forest) (handle : Handle) :
    ¬ Relation.TransGen heap.links.Up handle handle := fun hcycle =>
  hforest.acyclic handle (Relation.TransGen.mono (fun _ _ => hheap.up_of_up) _ _ hcycle)

/-- The walk up from the parent of a node that is out of the heap meets every node above it: none of
them is the node itself. -/
theorem isAbove_of_transGen {heap : Heap} {this : Handle} {all : LinkMap}
    (hheap : heap.LentOut this all) (hforest : all.Forest) {node : Node}
    (hthis : all this = some node.links) {target : Handle}
    (habove : Relation.TransGen all.Up this target) :
    heap.isAbove target [] node.parent = true := by
  obtain ⟨parent, hup, hway⟩ := Relation.TransGen.head'_iff.mp habove
  have hparent : node.parent = some parent := (LinkMap.up_of_eq hthis).mp hup
  rw [hparent, isAbove_iff (hheap.acyclic hforest) target [] parent (by simp)]
  clear habove
  induction hway with
  | refl => exact .refl
  | @tail middle last hway hstep ih =>
      -- a way that came back to the node would put it above itself
      have hother : this ≠ middle := by
        rintro rfl
        exact hforest.acyclic this (.head' hup hway)
      obtain ⟨own, hown, hlast⟩ := hstep
      exact ih.tail ⟨own, (hheap.links_eq middle hother).trans hown, hlast⟩

end LentOut

/-- A heap whose bookkeeping is right and whose nodes form a forest. -/
structure Forested (heap : Heap) : Prop where
  wellFormed : heap.WellFormed
  forest : heap.links.Forest

namespace LentOut

theorem forested_restore {heap : Heap} {this : Handle} {all : LinkMap}
    (hheap : heap.LentOut this all) (hforest : all.Forest) {component : Component}
    (hlinks : component.links? = all this) : (heap.restore this component).Forested where
  wellFormed := hheap.wellFormed.restore this component
  forest := by
    have hsame : (heap.restore this component).links = all := by
      funext handle
      rw [hheap.links_restore, hlinks]
      split
      · rename_i hthis
        rw [hthis]
      · rfl
    rwa [hsame]

theorem forested_appendChild {heap : Heap} {this child : Handle} {all : LinkMap}
    (hheap : heap.LentOut this all) (hforest : all.Forest) {node : Node}
    (hthis : all this = some node.links) {effect : Effect Node}
    (happend : node.appendChild heap this child = .ok effect) :
    (effect.heap.restore this (.node effect.state)).Forested := by
  have hrefused : (heap.restore this (.node node)).Forested :=
    hheap.forested_restore hforest hthis.symm
  unfold Node.appendChild Node.append at happend
  simp only [Procedure.outcome_own, Procedure.outcome_heap, Procedure.outcome_ite] at happend
  split at happend
  · cases happend
    exact hrefused
  rename_i habove
  split at happend
  · cases happend
    exact hrefused
  rename_i hdiffer
  split at happend
  · rename_i childNode hget
    rw [Procedure.outcome_carryOut] at happend
    cases happend
    have hchild : all child = some childNode.links := hheap.links_of_links (links_of_get? hget)
    have hadopt := hheap.links_adopt hforest hthis hchild hdiffer
    refine ⟨(hheap.wellFormed.adopt this node child childNode.parent).restore this _, ?_⟩
    rw [hadopt]
    refine hforest.move hthis hchild hdiffer ?_
    intro hway
    exact habove (hheap.isAbove_of_transGen hforest hthis hway)
  · cases happend
  · cases happend
    exact hrefused

theorem forested_removeChild {heap : Heap} {this : Handle} {all : LinkMap}
    (hheap : heap.LentOut this all) (hforest : all.Forest) {node : Node}
    (hthis : all this = some node.links) (child : Handle) :
    ((node.removeChild heap child).heap.restore this
      (.node (node.removeChild heap child).state)).Forested := by
  by_cases hmem : child ∈ node.children
  · constructor
    · refine WellFormed.restore ?_ this _
      rw [Node.removeChild, if_pos (List.contains_iff_mem.mpr hmem)]
      exact hheap.wellFormed.modifyNode _ _
    · rw [hheap.links_removeChild hforest hthis hmem]
      exact hforest.detach child
  · rw [Node.removeChild, if_neg (mt List.contains_iff_mem.mp hmem)]
    exact hheap.forested_restore hforest hthis.symm

end LentOut

theorem LentOut.forested_createChild {heap : Heap} {catalog : NodeCatalog} {this : Handle}
    {all : LinkMap} (hheap : heap.LentOut this all) (hforest : all.Forest) {node : Node}
    (hthis : all this = some node.links) {kind : String} {effect : Effect Node}
    (hcreate : NodeMethod.createChild heap catalog this node kind = .ok effect) :
    (effect.heap.restore this (.node effect.state)).Forested := by
  cases hdraft : catalog.draft kind with
  | error e =>
    rw [NodeMethod.createChild_of_error hdraft] at hcreate
    cases hcreate
    exact hheap.forested_restore hforest hthis.symm
  | ok draft =>
    rw [NodeMethod.createChild_of_draft hdraft rfl] at hcreate
    obtain ⟨appended, happend, rfl⟩ := map_eq_ok_iff.mp hcreate
    have hnew : (Component.node draft.node).links? = some .none :=
      congrArg some (catalog.links_draft hdraft)
    have hfresh := hheap.wellFormed.isValid_alloc_fst (.node draft.node)
    have hdiffer : (heap.alloc (.node draft.node)).1 ≠ this := by
      intro hsame
      rw [hsame, hheap.isValid] at hfresh
      cases hfresh
    have hunlinked : all (heap.alloc (.node draft.node)).1 = none := by
      rw [← hheap.links_eq _ hdiffer.symm, links_eq_none_of_not_isValid hfresh]
    change (appended.heap.restore this (.node appended.state)).Forested
    refine (hheap.alloc hnew).forested_appendChild (hforest.insert hunlinked) ?_ happend
    rw [LinkMap.insert, if_neg hdiffer, hthis]

end Heap

theorem Component.grows_of_call {heap : Heap} {catalog : NodeCatalog} {this : Handle} {call : Call}
    {component : Component} (hleaf : component.links? = none) {effect : Effect Component}
    (hcall : component.call heap catalog this call = .ok effect) :
    heap.Grows effect.heap ∧ effect.state.links? = none := by
  cases component with
  | array items =>
      rw [call_array] at hcall
      obtain ⟨_, -, rfl⟩ := map_eq_ok_iff.mp hcall
      exact ⟨.refl, rfl⟩
  | table entries =>
      rw [call_table] at hcall
      obtain ⟨_, hmethod, rfl⟩ := map_eq_ok_iff.mp hcall
      exact ⟨TableMethod.grows_call hmethod, rfl⟩
  | list items =>
      rw [call_list] at hcall
      obtain ⟨_, -, rfl⟩ := map_eq_ok_iff.mp hcall
      exact ⟨.refl, rfl⟩
  | timespan start =>
      rw [call_timespan] at hcall
      obtain ⟨_, -, rfl⟩ := map_eq_ok_iff.mp hcall
      exact ⟨.refl, rfl⟩
  | regex data =>
      rw [call_regex] at hcall
      obtain ⟨_, hmethod, rfl⟩ := map_eq_ok_iff.mp hcall
      exact ⟨RegexMethod.grows_call hmethod, rfl⟩
  | text value =>
      rw [call_text] at hcall
      obtain ⟨_, -, rfl⟩ := map_eq_ok_iff.mp hcall
      exact ⟨.refl, rfl⟩
  | element data =>
      rw [call_element] at hcall
      obtain ⟨_, hmethod, rfl⟩ := map_eq_ok_iff.mp hcall
      exact ⟨ElementMethod.grows_call hmethod, rfl⟩
  | elementList elements =>
      rw [call_elementList] at hcall
      obtain ⟨_, hmethod, rfl⟩ := map_eq_ok_iff.mp hcall
      exact ⟨ElementListMethod.grows_call hmethod, rfl⟩
  | node data => cases hleaf
  | host object => cases hcall

namespace Heap

namespace Forested

theorem callMethod {heap : Heap} (hheap : heap.Forested) (catalog : NodeCatalog) (this : Handle)
    (method : String) (arguments : List Value) :
    (heap.callMethod catalog this method arguments).heap.Forested := by
  cases hget : heap.get? this with
  | none =>
    rw [callMethod_of_none hget]
    exact hheap
  | some component =>
    have hlent := LentOut.lend hheap.wellFormed hget
    have hthis := links_of_get? hget
    cases hcall : component.call (heap.lend this) catalog this ⟨Name.key method, arguments⟩ with
    | error e =>
      rw [callMethod_of_error hget hcall]
      exact hheap
    | ok effect =>
      rw [callMethod_of_ok hget hcall]
      cases hlinks : component.links? with
      | none =>
          obtain ⟨hgrows, hleaf⟩ := Component.grows_of_call hlinks hcall
          exact (hlent.grows hgrows).forested_restore hheap.forest (by rw [hleaf, hthis, hlinks])
      | some own =>
          cases component with
          | node node =>
              rw [Component.call_node] at hcall
              obtain ⟨effect, hmethod, rfl⟩ := map_eq_ok_iff.mp hcall
              cases NodeMethod.outcome_of_call hmethod with
              | quiet hgrows hchildren hparent =>
                  refine (hlent.grows hgrows).forested_restore hheap.forest ?_
                  rw [hthis]
                  simp only [Effect.map, Component.links?, Node.links, hchildren, hparent]
              | append child happend => exact hlent.forested_appendChild hheap.forest hthis happend
              | create kind hcreate => exact hlent.forested_createChild hheap.forest hthis hcreate
              | remove child hremove =>
                  subst hremove
                  exact hlent.forested_removeChild hheap.forest hthis child
          | _ => cases hlinks

theorem alloc {heap : Heap} (hheap : heap.Forested) {component : Component}
    (hnew : component.IsUnlinked) : (heap.alloc component).2.Forested where
  wellFormed := hheap.wellFormed.alloc component
  forest := by
    have hfresh : heap.links (heap.alloc component).1 = none :=
      links_eq_none_of_not_isValid (hheap.wellFormed.isValid_alloc_fst component)
    rcases hnew with hnew | hnew
    · have hsame : (heap.alloc component).2.links = heap.links := by
        funext handle
        rw [hheap.wellFormed.links_alloc, hnew]
        split
        · rename_i hhandle
          rw [← hhandle, hfresh]
        · rfl
      rw [hsame]
      exact hheap.forest
    · have hinsert : (heap.alloc component).2.links =
          heap.links.insert (heap.alloc component).1 := by
        funext handle
        rw [hheap.wellFormed.links_alloc, hnew, LinkMap.insert]
      rw [hinsert]
      exact hheap.forest.insert hfresh

theorem setMember {heap changed : Heap} (hheap : heap.Forested) {this : Handle} {name : String}
    {value : Value} (hset : heap.setMember this name value = .ok changed) : changed.Forested := by
  cases hget : heap.get? this with
  | none =>
      rw [Heap.setMember, writeMember_of_none hget] at hset
      cases hset
  | some component =>
    rw [setMember_of_get? hget] at hset
    obtain ⟨new, hnew, rfl⟩ := map_eq_ok_iff.mp hset
    have hlinks : new.links? = component.links? := by
      cases component with
      | table entries => cases hnew; rfl
      | node node => cases hnew; rfl
      | host object => cases hnew; rfl
      | _ => cases hnew
    have hsame : (heap.set this new).links = heap.links := by
      funext handle
      rw [links, links, get?_set]
      split
      · rename_i hhandle
        rw [← hhandle, hget, Option.map_some, Option.bind_some, Option.bind_some, hlinks]
      · rfl
    refine ⟨hheap.wellFormed.set this new, ?_⟩
    rw [hsame]
    exact hheap.forest

/-- Relatives are reached together, so that a collection keeps or drops whole trees. -/
theorem collect {heap : Heap} (hheap : heap.Forested) (roots : List Handle) :
    (heap.collect roots).Forested where
  wellFormed := hheap.wellFormed.collect roots
  forest := by
    have hkept : ∀ {handle own}, (heap.collect roots).links handle = some own ↔
        heap.links handle = some own ∧ heap.Reaches roots handle := by
      intro handle own
      simp only [links_eq_some_iff, hheap.wellFormed.get?_collect]
      constructor
      · rintro ⟨node, ⟨hget, hreach⟩, hown⟩
        exact ⟨⟨node, hget, hown⟩, hreach⟩
      · rintro ⟨⟨node, hget, hown⟩, hreach⟩
        exact ⟨node, ⟨hget, hreach⟩, hown⟩
    refine hheap.forest.restrict (fun h => (hkept.mp h).1) ?_ ?_
    · rintro child parent ⟨own, hown, hparent⟩
      obtain ⟨hown, hreach⟩ := hkept.mp hown
      obtain ⟨node, hget, rfl⟩ := links_eq_some_iff.mp hown
      obtain ⟨parentLinks, habove, -⟩ := hheap.forest.down_of_up ⟨_, hown, hparent⟩
      refine ⟨parentLinks, hkept.mpr ⟨habove, hreach.step hget ?_ (isValid_of_links habove)⟩⟩
      have hparent : node.parent = some parent := hparent
      simp [Component.references, hparent]
    · rintro parent child ⟨own, hown, hchild⟩
      obtain ⟨hown, hreach⟩ := hkept.mp hown
      obtain ⟨node, hget, rfl⟩ := links_eq_some_iff.mp hown
      obtain ⟨childLinks, hbelow, -⟩ := hheap.forest.up_of_down ⟨_, hown, hchild⟩
      refine ⟨childLinks, hkept.mpr ⟨hbelow, hreach.step hget ?_ (isValid_of_links hbelow)⟩⟩
      have hchild : child ∈ node.children := hchild
      simp [Component.references, hchild]

end Forested

/-- The heaps that programs build from an empty one: they create components of kinds that make no
links, call methods, write members, and have their garbage collected, while time passes. -/
inductive Scripted : Heap → Prop
  | empty (run : RunId) (clock : Nat) : Scripted { run := run, clock := clock }
  | create {heap : Heap} (hheap : Scripted heap) {registry : Registry}
      (hregistry : registry.All Constructor.MakesUnlinked) {clock : Nat} {catalog : NodeCatalog}
      {kind : String} {arguments : List Value} {creation : Creation}
      (hcreate : registry.create clock catalog kind arguments = .ok creation) :
      Scripted (heap.alloc creation.component).2
  | literal {heap : Heap} (hheap : Scripted heap) {component : Component}
      (hleaf : component.links? = none) : Scripted (heap.alloc component).2
  | callMethod {heap : Heap} (hheap : Scripted heap) (catalog : NodeCatalog) (this : Handle)
      (method : String) (arguments : List Value) :
      Scripted (heap.callMethod catalog this method arguments).heap
  | setMember {heap changed : Heap} (hheap : Scripted heap) {this : Handle} {name : String}
      {value : Value} (hset : heap.setMember this name value = .ok changed) : Scripted changed
  | collect {heap : Heap} (hheap : Scripted heap) (roots : List Handle) :
      Scripted (heap.collect roots)
  | atTime {heap : Heap} (hheap : Scripted heap) (time : Nat) : Scripted (heap.atTime time)

theorem Scripted.forested {heap : Heap} (hheap : heap.Scripted) : heap.Forested := by
  induction hheap with
  | empty run clock =>
      have hnone : Heap.links { run := run, clock := clock } = fun _ => none := by
        funext handle
        simp [links, get?, slot?]
      exact ⟨wellFormed_empty run clock, hnone ▸ LinkMap.forest_empty⟩
  | @create heap _ registry hregistry clock catalog kind arguments creation hcreate ih =>
      unfold Registry.create at hcreate
      split at hcreate
      · rename_i entry hentry
        exact ih.alloc (hregistry kind entry hentry _ _ _ _ _ hcreate)
      · cases hcreate
  | literal _ hleaf ih => exact ih.alloc (.inl hleaf)
  | callMethod _ catalog this method arguments ih =>
      exact ih.callMethod catalog this method arguments
  | setMember _ hset ih => exact ih.setMember hset
  | collect _ roots ih => exact ih.collect roots
  | atTime _ time ih => exact ⟨ih.wellFormed.atTime time, ih.forest⟩

/-- The nodes of a heap form a forest, and walks along their links end. -/
structure IsForest (heap : Heap) : Prop where
  /-- Parents and children agree. -/
  mem_children_iff : ∀ {parent child : Handle} {parentNode childNode : Node},
    heap.get? parent = some (.node parentNode) → heap.get? child = some (.node childNode) →
    (child ∈ parentNode.children ↔ childNode.parent = some parent)
  nodup : ∀ {handle : Handle} {node : Node}, heap.get? handle = some (.node node) →
    node.children.Nodup
  /-- No node is above itself. -/
  acyclic : ∀ handle, ¬ Relation.TransGen heap.links.Up handle handle
  up_ends : WellFounded fun parent child => heap.links.Up child parent
  down_ends : WellFounded fun child parent => heap.links.Down parent child
  /-- The walk up while a component is out of the heap ends at a root, at the component that is out
  or at the target, and never because it comes to a node for the second time. -/
  isAbove_eq : ∀ this target current : Handle,
    (heap.lend this).isAbove target [] (some current) =
      if current = target then true
      else match (heap.lend this).get? current with
        | some (.node node) => (heap.lend this).isAbove target [] node.parent
        | _ => false
  /-- The search below a node while a component is out of the heap never comes to a node for the
  second time. -/
  findNode?_eq : ∀ (this : Handle) (id : String) (children : List Handle),
    (heap.lend this).findNode? id [] children = children.findSome? fun child =>
      match (heap.lend this).get? child with
      | some (.node node) =>
        if (node.fields.get? "id").bind Value.text? = some id then some child
        else (heap.lend this).findNode? id [] node.children
      | _ => none

/-- Whatever a program does, its nodes form a forest. -/
theorem nodes_form_forest {heap : Heap} (hheap : heap.Scripted) : heap.IsForest := by
  have hforest := hheap.forested.forest
  have hlent : ∀ {this handle : Handle} {own : Links},
      (heap.lend this).links handle = some own → heap.links handle = some own := by
    intro this handle own hown
    obtain ⟨node, hget, rfl⟩ := links_eq_some_iff.mp hown
    exact links_of_get? (get?_of_get?_lend hget).2
  have hresolves : ∀ {handle : Handle} {own : Links}, heap.links handle = some own →
      ∃ component, heap.get? handle = some component := by
    intro handle own hown
    obtain ⟨node, hget, -⟩ := links_eq_some_iff.mp hown
    exact ⟨_, hget⟩
  constructor
  · intro parent child parentNode childNode hparent hchild
    constructor
    · intro hmem
      have hup := hforest.up_of_down ((LinkMap.down_of_eq (links_of_get? hparent)).mpr hmem)
      exact (LinkMap.up_of_eq (links_of_get? hchild)).mp hup
    · intro habove
      have hdown := hforest.down_of_up ((LinkMap.up_of_eq (links_of_get? hchild)).mpr habove)
      exact (LinkMap.down_of_eq (links_of_get? hparent)).mp hdown
  · intro handle node hget
    exact hforest.nodup (links_of_get? hget)
  · exact hforest.acyclic
  · refine wellFounded_of_acyclic heap ?_ hforest.acyclic
    rintro child parent ⟨own, hown, -⟩
    exact hresolves hown
  · refine wellFounded_of_acyclic heap ?_ hforest.down_acyclic
    rintro parent child ⟨own, hown, -⟩
    exact hresolves hown
  · intro this target current
    refine isAbove_eq_of_acyclic (fun handle hcycle => hforest.acyclic handle ?_) target current
    refine Relation.TransGen.mono ?_ _ _ hcycle
    rintro child parent ⟨own, hown, hparent⟩
    exact ⟨own, hlent hown, hparent⟩
  · intro this id children
    refine findNode?_eq_of_acyclic (fun handle hcycle => hforest.down_acyclic handle ?_) id children
    refine Relation.TransGen.mono ?_ _ _ hcycle
    rintro parent child ⟨own, hown, hchild⟩
    exact ⟨own, hlent hown, hchild⟩

/-- A node of the plainest kind. -/
def plainNode : Node :=
  { subtype := "Node"
    ancestry := ["Node"]
    fields := ⟨[("id", .text ""), ("focusable", .boolean false), ("focusedChild", .invalid)]⟩ }

theorem create_plainNode :
    Registry.builtin.create 0 .empty "roSGNode" [.text "Node"] = .ok ⟨.node plainNode, []⟩ := by
  have hdraft : NodeCatalog.empty.draft "Node" = .ok ⟨plainNode, []⟩ := by decide +kernel
  rw [Registry.create, Registry.get?, Registry.builtin, Registry.register,
    Dictionary.get?_insert_self]
  simp [Constructor.make, Constructor.expect, Constructor.textArgument, bind, Except.bind,
    Constructor.makeNode, hdraft]

/-- Two nodes, of which one becomes the child of the other. -/
theorem nodes_form_forest_of_append :
    let first : Handle := ⟨⟨0⟩, 0, 0⟩
    let second : Handle := ⟨⟨0⟩, 1, 0⟩
    let nodes := (((Heap.empty ⟨0⟩).alloc (.node plainNode)).2.alloc (.node plainNode)).2
    let heap := (nodes.callMethod .empty first "appendChild" [.object second]).heap
    heap.Scripted ∧ heap.links second = some ⟨[], some first⟩ ∧ heap.IsForest := by
  intro first second nodes heap
  have hnodes : nodes.Scripted :=
    .create (.create (.empty ⟨0⟩ 0) Registry.all_makesUnlinked_builtin create_plainNode)
      Registry.all_makesUnlinked_builtin create_plainNode
  have hheap : heap.Scripted := hnodes.callMethod .empty first "appendChild" [.object second]
  refine ⟨hheap, ?_, nodes_form_forest hheap⟩
  dsimp only [heap, nodes, first, second]
  decide +kernel

end Heap

end BrightScript
