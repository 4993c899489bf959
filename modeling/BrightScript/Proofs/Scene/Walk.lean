import BrightScript.Proofs.Method.Growth

namespace BrightScript

namespace Heap

/-- The links of the nodes on a heap. -/
def links (heap : Heap) : LinkMap := fun handle => (heap.get? handle).bind Component.links?

theorem links_of_get? {heap : Heap} {handle : Handle} {component : Component}
    (hget : heap.get? handle = some component) : heap.links handle = component.links? := by
  rw [links, hget, Option.bind_some]

theorem links_eq_some_iff {heap : Heap} {handle : Handle} {own : Links} :
    heap.links handle = some own ↔
      ∃ node, heap.get? handle = some (.node node) ∧ own = node.links := by
  unfold links
  rw [Option.bind_eq_some_iff]
  constructor
  · rintro ⟨component, hget, hlinks⟩
    cases component with
    | node node => exact ⟨node, hget, (Option.some.inj hlinks).symm⟩
    | _ => cases hlinks
  · rintro ⟨node, hget, rfl⟩
    exact ⟨.node node, hget, rfl⟩

theorem links_eq_none_of_not_isValid {heap : Heap} {handle : Handle}
    (hinvalid : heap.isValid handle = false) : heap.links handle = none := by
  rw [links, get?_eq_none_of_not_isValid hinvalid, Option.bind_none]

theorem isValid_of_links {heap : Heap} {handle : Handle} {own : Links}
    (hlinks : heap.links handle = some own) : heap.isValid handle = true := by
  obtain ⟨node, hget, -⟩ := links_eq_some_iff.mp hlinks
  exact isValid_of_get? hget

theorem WellFormed.links_alloc {heap : Heap} (hheap : heap.WellFormed) (component : Component)
    (handle : Handle) :
    (heap.alloc component).2.links handle =
      if (heap.alloc component).1 = handle then component.links? else heap.links handle := by
  unfold links
  rw [hheap.get?_alloc]
  split
  · rfl
  · rfl

theorem links_modifyNode {heap : Heap} {change : Node → Node} {relink : Links → Links}
    (hchange : ∀ node : Node, (change node).links = relink node.links) (handle other : Handle) :
    (heap.modifyNode handle change).links other =
      if handle = other then (heap.links other).map relink else heap.links other := by
  unfold modifyNode
  split
  · rename_i node hget
    unfold links
    rw [get?_set]
    split
    · rename_i hsame
      rw [← hsame, hget, Option.map_some, Option.bind_some, Option.bind_some,
        Component.links?, Component.links?, hchange, Option.map_some]
    · rfl
  · rename_i hnone
    split
    · rename_i hsame
      subst hsame
      cases hlinks : heap.links handle with
      | none => rfl
      | some own =>
          obtain ⟨node, hget, -⟩ := links_eq_some_iff.mp hlinks
          exact absurd hget (hnone node)
    · rfl

theorem WellFormed.modifyNode {heap : Heap} (hheap : heap.WellFormed) (handle : Handle)
    (change : Node → Node) : (heap.modifyNode handle change).WellFormed := by
  unfold Heap.modifyNode
  split
  · exact hheap.set _ _
  · exact hheap

/-- The component of a handle is out of the heap; `all` has the links of the other nodes, and may
have any for the handle itself. -/
structure LentOut (heap : Heap) (this : Handle) (all : LinkMap) : Prop where
  wellFormed : heap.WellFormed
  isValid : heap.isValid this = true
  get?_eq_none : heap.get? this = none
  links_eq : ∀ handle, this ≠ handle → heap.links handle = all handle

namespace LentOut

theorem lend {heap : Heap} (hheap : heap.WellFormed) {this : Handle} {component : Component}
    (hget : heap.get? this = some component) : (heap.lend this).LentOut this heap.links where
  wellFormed := hheap.lend this
  isValid := by rw [isValid_lend, isValid_of_get? hget]
  get?_eq_none := get?_lend_self heap this
  links_eq := by
    intro handle hdiffer
    rw [links, links, get?_lend, if_neg hdiffer]

theorem links_of_links {heap : Heap} {this : Handle} {all : LinkMap}
    (hheap : heap.LentOut this all) {handle : Handle} {own : Links}
    (hlinks : heap.links handle = some own) : all handle = some own := by
  rw [← hheap.links_eq handle, hlinks]
  rintro rfl
  obtain ⟨node, hget, -⟩ := links_eq_some_iff.mp hlinks
  rw [hheap.get?_eq_none] at hget
  cases hget

theorem grows {heap larger : Heap} {this : Handle} {all : LinkMap}
    (hheap : heap.LentOut this all) (hgrows : heap.Grows larger) : larger.LentOut this all where
  wellFormed := hgrows.wellFormed hheap.wellFormed
  isValid := hgrows.isValid_of_isValid hheap.wellFormed hheap.isValid
  get?_eq_none := by rw [hgrows.get?_eq hheap.wellFormed hheap.isValid, hheap.get?_eq_none]
  links_eq := by
    intro handle hdiffer
    rw [← hheap.links_eq handle hdiffer]
    cases hvalid : heap.isValid handle with
    | true => rw [links, links, hgrows.get?_eq hheap.wellFormed hvalid]
    | false =>
        rw [links_eq_none_of_not_isValid hvalid]
        cases hget : larger.get? handle with
        | none => rw [links, hget, Option.bind_none]
        | some component =>
            rw [links_of_get? hget, hgrows.links?_eq_none hheap.wellFormed hvalid hget]

theorem alloc {heap : Heap} {this : Handle} {all : LinkMap} (hheap : heap.LentOut this all)
    {component : Component} (hnew : component.links? = some .none) :
    (heap.alloc component).2.LentOut this (all.insert (heap.alloc component).1) where
  wellFormed := hheap.wellFormed.alloc component
  isValid := by
    rw [hheap.wellFormed.isValid_alloc, hheap.isValid, Bool.or_true]
  get?_eq_none := by
    rw [hheap.wellFormed.get?_alloc, if_neg, hheap.get?_eq_none]
    intro hsame
    have hfresh := hheap.wellFormed.isValid_alloc_fst component
    rw [hsame, hheap.isValid] at hfresh
    cases hfresh
  links_eq := by
    intro handle hdiffer
    rw [hheap.wellFormed.links_alloc, LinkMap.insert, hnew]
    split
    · rfl
    · exact hheap.links_eq handle hdiffer

theorem modifyNode {heap : Heap} {this : Handle} {all : LinkMap} (hheap : heap.LentOut this all)
    {handle : Handle} (hdiffer : this ≠ handle) (change : Node → Node) (relink : Links → Links)
    (hchange : ∀ node : Node, (change node).links = relink node.links) :
    (heap.modifyNode handle change).LentOut this fun other =>
      if handle = other then (all other).map relink else all other where
  wellFormed := hheap.wellFormed.modifyNode handle change
  isValid := by
    unfold Heap.modifyNode
    split
    · rw [isValid_set, hheap.isValid]
    · exact hheap.isValid
  get?_eq_none := by
    unfold Heap.modifyNode
    split
    · rw [get?_set, if_neg (Ne.symm hdiffer), hheap.get?_eq_none]
    · exact hheap.get?_eq_none
  links_eq := by
    intro other hother
    rw [links_modifyNode hchange, hheap.links_eq other hother]

theorem links_restore {heap : Heap} {this : Handle} {all : LinkMap}
    (hheap : heap.LentOut this all) (component : Component) (handle : Handle) :
    (heap.restore this component).links handle =
      if this = handle then component.links? else all handle := by
  rw [links, get?_restore hheap.isValid hheap.get?_eq_none]
  split
  · rfl
  · rename_i hdiffer
    exact hheap.links_eq handle hdiffer

end LentOut

theorem isAbove_some (heap : Heap) (target : Handle) (path : List Handle) (current : Handle) :
    heap.isAbove target path (some current) =
      if current = target then true
      else if path.contains current then false
      else match heap.get? current with
        | some (.node node) => heap.isAbove target (current :: path) node.parent
        | _ => false := by
  rw [isAbove]
  split
  · rfl
  · split
    · rename_i hfresh
      rw [hfresh, if_neg Bool.false_ne_true]
      split <;> simp_all
    · rename_i hmet
      rw [if_pos (Bool.not_eq_false _ ▸ hmet)]

theorem findSome?_congr {α β : Type} {first second : α → Option β} {items : List α}
    (hagree : ∀ item ∈ items, first item = second item) :
    items.findSome? first = items.findSome? second := by
  induction items with
  | nil => rfl
  | cons item items ih =>
      rw [List.findSome?_cons, List.findSome?_cons, hagree item List.mem_cons_self,
        ih fun item hitem => hagree item (List.mem_cons_of_mem _ hitem)]

theorem findNode?_eq (heap : Heap) (id : String) (path children : List Handle) :
    heap.findNode? id path children = children.findSome? fun child =>
      match heap.get? child with
      | some (.node node) =>
        if (node.fields.get? "id").bind Value.text? = some id then some child
        else if path.contains child then none
        else heap.findNode? id (child :: path) node.children
      | _ => none := by
  rw [findNode?]
  refine findSome?_congr fun child _ => ?_
  split
  · rename_i node hget
    simp only [hget]
    split
    · rfl
    · split
      · rename_i hfresh
        rw [hfresh, if_neg Bool.false_ne_true]
      · rename_i hmet
        rw [if_pos (Bool.not_eq_false _ ▸ hmet)]
  · split <;> simp_all

/-- Where no node is above itself, the walk up meets exactly the nodes above: the check for nodes
that were met before never ends it. -/
theorem isAbove_iff {heap : Heap}
    (hacyclic : ∀ handle, ¬ Relation.TransGen heap.links.Up handle handle) (target : Handle)
    (path : List Handle) (current : Handle)
    (hpath : ∀ handle ∈ path, Relation.TransGen heap.links.Up handle current) :
    heap.isAbove target path (some current) = true ↔
      Relation.ReflTransGen heap.links.Up current target := by
  -- the walk goes on from the parent, which may be missing
  suffices hgeneral : ∀ start, (∀ current, start = some current →
      ∀ handle ∈ path, Relation.TransGen heap.links.Up handle current) →
      (heap.isAbove target path start = true ↔
        ∃ current, start = some current ∧ Relation.ReflTransGen heap.links.Up current target) by
    rw [hgeneral (some current) (by rintro _ ⟨⟩; exact hpath)]
    simp
  clear hpath current
  intro start hpath
  induction path, start using isAbove.induct heap target with
  | case1 path => simp [isAbove]
  | case2 path =>
      rw [isAbove, if_pos rfl]
      simp [Relation.ReflTransGen.refl]
  | case3 path current hdiffer hfresh node hget _ ih =>
      have hown := links_of_get? hget
      have hbelow : ∀ parent, node.parent = some parent → heap.links.Up current parent :=
        fun parent hparent => ⟨_, hown, hparent⟩
      rw [isAbove_some, if_neg hdiffer, hfresh, if_neg Bool.false_ne_true, hget]
      dsimp only
      rw [ih]
      · constructor
        · rintro ⟨parent, hparent, hway⟩
          exact ⟨current, rfl, hway.head (hbelow parent hparent)⟩
        · rintro ⟨_, ⟨⟩, hway⟩
          rcases Relation.ReflTransGen.cases_head hway with hsame | ⟨parent, hstep, hway⟩
          · exact absurd hsame hdiffer
          · exact ⟨parent, (LinkMap.up_of_eq hown).mp hstep, hway⟩
      · intro parent hparent handle hhandle
        rcases List.mem_cons.mp hhandle with rfl | hhandle
        · exact .single (hbelow parent hparent)
        · exact (hpath current rfl handle hhandle).tail (hbelow parent hparent)
  | case4 path current hdiffer hfresh hnone =>
      rw [isAbove_some, if_neg hdiffer, hfresh, if_neg Bool.false_ne_true]
      split
      · rename_i node hget
        exact absurd hget (hnone node)
      · simp only [Bool.false_eq_true, false_iff]
        rintro ⟨_, ⟨⟩, hway⟩
        rcases Relation.ReflTransGen.cases_head hway with hsame | ⟨parent, ⟨own, hown, -⟩, -⟩
        · exact hdiffer hsame
        · obtain ⟨node, hget, -⟩ := links_eq_some_iff.mp hown
          exact hnone node hget
  | case5 path current hdiffer hmet =>
      simp only [Bool.not_eq_false, List.contains_iff_mem] at hmet
      exact absurd (hpath current rfl current hmet) (hacyclic current)

/-- Where no node is above itself, the walk up needs no memory of the nodes that were met. -/
theorem isAbove_eq_of_acyclic {heap : Heap}
    (hacyclic : ∀ handle, ¬ Relation.TransGen heap.links.Up handle handle)
    (target current : Handle) :
    heap.isAbove target [] (some current) =
      if current = target then true
      else match heap.get? current with
        | some (.node node) => heap.isAbove target [] node.parent
        | _ => false := by
  rw [isAbove_some, List.contains_nil, if_neg Bool.false_ne_true]
  split
  · rfl
  · split
    · rename_i node hget
      cases hparent : node.parent with
      | none => rw [isAbove, isAbove]
      | some parent =>
          have hstep : heap.links.Up current parent := ⟨_, links_of_get? hget, hparent⟩
          rw [Bool.eq_iff_iff, isAbove_iff hacyclic, isAbove_iff hacyclic]
          · simp
          · intro handle hhandle
            rw [List.mem_singleton.mp hhandle]
            exact .single hstep
    · rfl

theorem findNode?_path {heap : Heap}
    (hacyclic : ∀ handle, ¬ Relation.TransGen heap.links.Down handle handle) (id : String)
    (path other children : List Handle)
    (hpath : ∀ child ∈ children, ∀ handle ∈ path, Relation.TransGen heap.links.Down handle child)
    (hother : ∀ child ∈ children, ∀ handle ∈ other,
      Relation.TransGen heap.links.Down handle child) :
    heap.findNode? id path children = heap.findNode? id other children := by
  induction path, children using findNode?.induct heap generalizing other with
  | case1 path children ih =>
      -- what was met is above the children, so that a child that was met would be above itself
      have hfresh : ∀ {above : List Handle} {child : Handle},
          (∀ handle ∈ above, Relation.TransGen heap.links.Down handle child) →
            above.contains child = false := by
        intro above child habove
        rw [← Bool.not_eq_true, List.contains_iff_mem]
        exact fun hmet => hacyclic child (habove child hmet)
      rw [findNode?_eq, findNode?_eq heap id other]
      refine findSome?_congr fun child hchild => ?_
      split
      · rename_i node hget
        have hbelow : ∀ {above : List Handle},
            (∀ handle ∈ above, Relation.TransGen heap.links.Down handle child) →
            ∀ grandchild ∈ node.children, ∀ handle ∈ child :: above,
              Relation.TransGen heap.links.Down handle grandchild := by
          intro above habove grandchild hgrandchild handle hhandle
          have hstep : heap.links.Down child grandchild := ⟨_, links_of_get? hget, hgrandchild⟩
          rcases List.mem_cons.mp hhandle with rfl | hhandle
          · exact .single hstep
          · exact (habove handle hhandle).tail hstep
        have hpath := hpath child hchild
        have hother := hother child hchild
        rw [hfresh hpath, hfresh hother, if_neg Bool.false_ne_true, if_neg Bool.false_ne_true,
          ih child node hget (hfresh hpath) (child :: other) (hbelow hpath) (hbelow hother)]
      · rfl

theorem findNode?_eq_of_acyclic {heap : Heap}
    (hacyclic : ∀ handle, ¬ Relation.TransGen heap.links.Down handle handle) (id : String)
    (children : List Handle) :
    heap.findNode? id [] children = children.findSome? fun child =>
      match heap.get? child with
      | some (.node node) =>
        if (node.fields.get? "id").bind Value.text? = some id then some child
        else heap.findNode? id [] node.children
      | _ => none := by
  rw [findNode?_eq]
  refine findSome?_congr fun child _ => ?_
  split
  · rename_i node hget
    rw [List.contains_nil, if_neg Bool.false_ne_true,
      findNode?_path hacyclic id [child] [] node.children]
    · intro grandchild hgrandchild handle hhandle
      rw [List.mem_singleton.mp hhandle]
      exact .single ⟨_, links_of_get? hget, hgrandchild⟩
    · simp
  · rfl

/-- A walk along links that never comes back to where it was ends: the handles met are different,
and all of them are on the heap. -/
theorem wellFounded_of_acyclic (heap : Heap) {step : Handle → Handle → Prop}
    (hresolves : ∀ {handle next}, step handle next → ∃ component, heap.get? handle = some component)
    (hacyclic : ∀ handle, ¬ Relation.TransGen step handle handle) :
    WellFounded (fun next handle => step handle next) := by
  suffices hacc : ∀ (path : List Handle) (handle : Handle),
      (∀ met ∈ path, Relation.TransGen step met handle) →
      Acc (fun next handle => step handle next) handle from
    ⟨fun handle => hacc [] handle (by simp)⟩
  intro path
  -- each step leaves one handle less on the heap that was not met yet
  induction hsize : heap.unvisited path using Nat.strong_induction_on generalizing path with
  | _ size ih =>
      intro handle hpath
      refine ⟨_, fun next hstep => ?_⟩
      obtain ⟨component, hget⟩ := hresolves hstep
      have hfresh : path.contains handle = false := by
        rw [← Bool.not_eq_true, List.contains_iff_mem]
        exact fun hmet => hacyclic handle (hpath handle hmet)
      have hsmaller := unvisited_cons_lt hget hfresh
      rw [hsize] at hsmaller
      refine ih _ hsmaller (handle :: path) rfl next ?_
      intro met hmet
      rcases List.mem_cons.mp hmet with rfl | hmet
      · exact .single hstep
      · exact (hpath met hmet).tail hstep

end Heap

end BrightScript
