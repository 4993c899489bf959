import BrightScript.Proofs.Scene.Forest

namespace BrightScript

namespace Value

theorem ofHandle?_eq_object_iff {handle? : Option Handle} {handle : Handle} :
    ofHandle? handle? = .object handle ↔ handle? = some handle := by
  cases handle? <;> simp [ofHandle?]

theorem ofHandle?_eq_invalid_iff {handle? : Option Handle} :
    ofHandle? handle? = .invalid ↔ handle? = none := by
  cases handle? <;> simp [ofHandle?]

theorem text?_eq_some_iff {value : Value} {text : String} :
    value.text? = some text ↔ value = .text text := by
  cases value <;> simp [text?]

end Value

namespace LinkMap

/-- The nodes of `children` and all that is below them: each node, then what is below it, then the
nodes behind it with what is below them. -/
inductive Preorder (links : LinkMap) : List Handle → List Handle → Prop
  | nil : links.Preorder [] []
  | cons {child : Handle} {own : Links} {children below behind : List Handle}
      (hown : links child = some own) (hbelow : links.Preorder own.children below)
      (hbehind : links.Preorder children behind) :
      links.Preorder (child :: children) (child :: (below ++ behind))

namespace Preorder

variable {links : LinkMap} {children descendants : List Handle}

theorem mem_iff (horder : links.Preorder children descendants) {handle : Handle} :
    handle ∈ descendants ↔ ∃ child ∈ children, Relation.ReflTransGen links.Down child handle := by
  induction horder with
  | nil => simp
  | @cons child own children below behind hown _ _ ihbelow ihbehind =>
      have hself : Relation.ReflTransGen links.Down child handle ↔
          handle = child ∨ handle ∈ below := by
        rw [Relation.ReflTransGen.cases_head_iff, ihbelow]
        simp only [down_of_eq hown, eq_comm]
      rw [List.mem_cons, List.mem_append, ← or_assoc, ← hself, ihbehind]
      simp

theorem congr (horder : links.Preorder children descendants) {other : LinkMap}
    (hsame : ∀ handle ∈ descendants, other handle = links handle) :
    other.Preorder children descendants := by
  induction horder with
  | nil => exact .nil
  | @cons child own children below behind hown _ _ ihbelow ihbehind =>
      obtain ⟨hchild, hrest⟩ := List.forall_mem_cons.mp hsame
      obtain ⟨hbelow, hbehind⟩ := List.forall_mem_append.mp hrest
      exact .cons (hchild.trans hown) (ihbelow hbelow) (ihbehind hbehind)

theorem of_forall (hchildren : ∀ child ∈ children, ∃ own below,
    links child = some own ∧ links.Preorder own.children below) :
    ∃ descendants, links.Preorder children descendants := by
  induction children with
  | nil => exact ⟨[], .nil⟩
  | cons child children ih =>
      obtain ⟨⟨own, below, hown, hbelow⟩, hrest⟩ := List.forall_mem_cons.mp hchildren
      obtain ⟨behind, hbehind⟩ := ih hrest
      exact ⟨_, .cons hown hbelow hbehind⟩

end Preorder

theorem Forest.exists_preorder {links : LinkMap} (hforest : links.Forest)
    (hends : WellFounded fun child parent => links.Down parent child) {this : Handle} {own : Links}
    (hthis : links this = some own) : ∃ descendants, links.Preorder own.children descendants := by
  induction this using hends.induction generalizing own with
  | _ this ih =>
      refine Preorder.of_forall fun child hchild => ?_
      have hdown : links.Down this child := (down_of_eq hthis).mpr hchild
      obtain ⟨childLinks, hlinks, -⟩ := hforest.up_of_down hdown
      obtain ⟨below, hbelow⟩ := ih child hdown hlinks
      exact ⟨childLinks, below, hlinks, hbelow⟩

end LinkMap

theorem NodeMethod.call_findNode (heap : Heap) (catalog : NodeCatalog) (this : Handle)
    (node : Node) (id : String) :
    NodeMethod.call heap catalog this node ⟨"findnode", [.text id]⟩ =
      .ok ⟨node, heap, .ofHandle? (heap.findNode? id [] node.children), []⟩ := by
  simp only [NodeMethod.call, NodeMethod.perform, Procedure.outcome_check]
  rfl

namespace Heap

/-- The node of a handle. -/
def node? (heap : Heap) (handle : Handle) : Option Node :=
  match heap.get? handle with
  | some (.node node) => some node
  | _ => none

theorem node?_eq_some_iff {heap : Heap} {handle : Handle} {node : Node} :
    heap.node? handle = some node ↔ heap.get? handle = some (.node node) := by
  unfold node?
  split <;> simp_all

/-- The value in the field `id` of a node, in whatever letter case the field was named. -/
def id? (heap : Heap) (handle : Handle) : Option Value :=
  (heap.node? handle).bind (·.fields.get? "id")

/-- Where no node is below itself, a search finds the first node in preorder that has the
identifier. -/
theorem findNode?_eq_find? {heap : Heap}
    (hacyclic : ∀ handle, ¬ Relation.TransGen heap.links.Down handle handle) (id : String)
    {children descendants : List Handle} (horder : heap.links.Preorder children descendants) :
    heap.findNode? id [] children =
      descendants.find? fun handle => heap.id? handle = some (.text id) := by
  induction horder with
  | nil => rw [findNode?_eq_of_acyclic hacyclic, List.findSome?_nil, List.find?_nil]
  | @cons child own children below behind hown _ _ ihbelow ihbehind =>
      obtain ⟨node, hget, rfl⟩ := links_eq_some_iff.mp hown
      have hid : heap.id? child = some (.text id) ↔
          (node.fields.get? "id").bind Value.text? = some id := by
        simp [id?, node?_eq_some_iff.mpr hget, Option.bind_eq_some_iff, Value.text?_eq_some_iff]
      rw [findNode?_eq_of_acyclic hacyclic, List.findSome?_cons,
        ← findNode?_eq_of_acyclic hacyclic, hget, ihbehind]
      dsimp only
      by_cases hfound : heap.id? child = some (.text id)
      · rw [if_pos (hid.mp hfound), List.find?_cons, decide_eq_true hfound]
      · rw [if_neg (mt hid.mpr hfound), List.find?_cons, decide_eq_false hfound, List.find?_append]
        change heap.findNode? id [] node.children = _ at ihbelow
        rw [ihbelow]
        cases below.find? fun handle => heap.id? handle = some (.text id) <;> rfl

theorem Forested.down_ends {heap : Heap} (hheap : heap.Forested) :
    WellFounded fun child parent => heap.links.Down parent child := by
  refine wellFounded_of_acyclic heap ?_ hheap.forest.down_acyclic
  rintro parent child ⟨own, hown, -⟩
  obtain ⟨node, hget, -⟩ := links_eq_some_iff.mp hown
  exact ⟨_, hget⟩

theorem LentOut.down_acyclic {heap : Heap} {this : Handle} {all : LinkMap}
    (hheap : heap.LentOut this all) (hforest : all.Forest) (handle : Handle) :
    ¬ Relation.TransGen heap.links.Down handle handle := by
  intro hcycle
  refine hforest.down_acyclic handle (Relation.TransGen.mono ?_ _ _ hcycle)
  rintro parent child ⟨own, hown, hchild⟩
  exact ⟨own, hheap.links_of_links hown, hchild⟩

theorem Forested.findNode?_lend {heap : Heap} (hheap : heap.Forested) {this : Handle}
    {node : Node} (hthis : heap.get? this = some (.node node)) (id : String)
    {descendants : List Handle} (horder : heap.links.Preorder node.children descendants)
    (hout : this ∉ descendants) :
    (heap.lend this).findNode? id [] node.children =
      descendants.find? fun handle => heap.id? handle = some (.text id) := by
  have hlent := LentOut.lend hheap.wellFormed hthis
  have hother : ∀ handle ∈ descendants, this ≠ handle := by
    rintro handle hhandle rfl
    exact hout hhandle
  have hlinks := horder.congr fun handle hhandle => hlent.links_eq handle (hother handle hhandle)
  rw [findNode?_eq_find? (hlent.down_acyclic hheap.forest) id hlinks]
  refine List.find?_congr fun handle hhandle => ?_
  rw [id?, id?, node?, node?, get?_lend, if_neg (hother handle hhandle)]

theorem callMethod_findNode {heap : Heap} {this : Handle} {node : Node}
    (hthis : heap.get? this = some (.node node)) (catalog : NodeCatalog) {method : String}
    (hmethod : Name.key method = "findnode") (id : String) :
    heap.callMethod catalog this method [.text id] =
      ⟨.ok (.ofHandle? ((heap.lend this).findNode? id [] node.children)), heap, []⟩ := by
  have hcall := NodeMethod.call_findNode (heap.lend this) catalog this node id
  rw [callMethod_of_ok hthis (by rw [hmethod, Component.call_node, hcall]; rfl)]
  exact congrArg (CallResult.mk _ · _) (restore_lend hthis)

/-- The search below a node comes to an end: what is below it can be listed in preorder. It gives
the first node of the list that has the identifier, and `invalid` just if no node below has it. -/
theorem findNode_first_in_preorder {heap : Heap} (hheap : heap.Scripted) {this : Handle}
    {node : Node} (hthis : heap.get? this = some (.node node)) (catalog : NodeCatalog)
    {method : String} (hmethod : Name.key method = "findnode") (id : String) :
    (∃ descendants, heap.links.Preorder node.children descendants) ∧
    ∀ descendants, heap.links.Preorder node.children descendants →
      (∀ handle, handle ∈ descendants ↔ Relation.TransGen heap.links.Down this handle) ∧
      ∃ value, heap.callMethod catalog this method [.text id] = ⟨.ok value, heap, []⟩ ∧
        (∀ found, value = .object found ↔
          ∃ before behind, descendants = before ++ found :: behind ∧
            heap.id? found = some (.text id) ∧
            ∀ handle ∈ before, heap.id? handle ≠ some (.text id)) ∧
        (value = .invalid ↔
          ∀ handle, Relation.TransGen heap.links.Down this handle →
            heap.id? handle ≠ some (.text id)) := by
  have hforest := hheap.forested.forest
  have hlinks : heap.links this = some node.links := links_of_get? hthis
  refine ⟨hforest.exists_preorder hheap.forested.down_ends hlinks, ?_⟩
  intro descendants horder
  have hmem : ∀ handle, handle ∈ descendants ↔
      Relation.TransGen heap.links.Down this handle := by
    intro handle
    simp only [horder.mem_iff, Relation.TransGen.head'_iff, LinkMap.down_of_eq hlinks]
    rfl
  have hout : this ∉ descendants := fun hcycle => hforest.down_acyclic this ((hmem this).mp hcycle)
  have hcall := callMethod_findNode hthis catalog hmethod id
  rw [hheap.forested.findNode?_lend hthis id horder hout] at hcall
  refine ⟨hmem, _, hcall, fun found => ?_, ?_⟩
  · rw [Value.ofHandle?_eq_object_iff, List.find?_eq_some_iff_append]
    simp [and_left_comm]
  · rw [Value.ofHandle?_eq_invalid_iff, List.find?_eq_none]
    simp [hmem]

/-- A node of a gallery. -/
def galleryNode (index : Nat) : Handle := ⟨⟨0⟩, index, 0⟩

/-- A node with an identifier. -/
def titleNode : Node :=
  { plainNode with fields :=
      ⟨[("id", .text "title"), ("focusable", .boolean false), ("focusedChild", .invalid)]⟩ }

/-- Four nodes, of which the last two have the same identifier. -/
def galleryNodes : Heap :=
  let plain := (((((Heap.empty ⟨0⟩).alloc (.node plainNode)).2.alloc (.node plainNode)).2.alloc
    (.node plainNode)).2.alloc (.node plainNode)).2
  (plain.set (galleryNode 2) (.node titleNode)).set (galleryNode 3) (.node titleNode)

/-- A call that appends a node of a gallery to another. -/
def hang (heap : Heap) (parent child : Nat) : Heap :=
  (heap.callMethod .empty (galleryNode parent) "appendChild" [.object (galleryNode child)]).heap

/-- A scene with a group and a title, where the group holds the other title. -/
def gallery : Heap := ((galleryNodes.hang 1 2).hang 0 1).hang 0 3

theorem scripted_gallery : gallery.Scripted := by
  have hplain : ∀ {heap : Heap}, heap.Scripted → (heap.alloc (.node plainNode)).2.Scripted :=
    fun hheap => .create hheap Registry.all_makesUnlinked_builtin create_plainNode
  have htitle : ∀ {heap : Heap} (handle : Handle), heap.Scripted →
      heap.get? handle = some (.node plainNode) →
      (heap.set handle (.node titleNode)).Scripted := by
    intro heap handle hheap hget
    have hset : heap.setMember handle "ID" (.text "title") =
        .ok (heap.set handle (.node titleNode)) := by
      have hkey : Name.key "id" = Name.key "ID" := by
        rw [Name.key_eq_iff]
        simp [Name.key, String.toLower]
      have hnode : plainNode.setField "ID" (.text "title") = titleNode := by
        simp only [Node.setField, Dictionary.insert, Dictionary.put, plainNode, if_pos hkey,
          titleNode]
      rw [setMember_of_get? hget, ← hnode]
      rfl
    exact hheap.setMember hset
  have hhang : ∀ {heap : Heap}, heap.Scripted →
      ∀ parent child, (heap.hang parent child).Scripted := by
    intro heap hheap parent child
    unfold hang
    exact hheap.callMethod .empty _ "appendChild" _
  have hnodes : galleryNodes.Scripted := by
    unfold galleryNodes
    exact htitle _ (htitle _ (hplain (hplain (hplain (hplain (.empty ⟨0⟩ 0))))) rfl) rfl
  unfold gallery
  exact hhang (hhang (hhang hnodes 1 2) 0 1) 0 3

theorem node?_gallery :
    gallery.node? (galleryNode 0) =
      some { plainNode with children := [galleryNode 1, galleryNode 3] } ∧
    gallery.node? (galleryNode 1) = some { plainNode with
      parent := some (galleryNode 0), children := [galleryNode 2] } ∧
    gallery.node? (galleryNode 2) = some { titleNode with parent := some (galleryNode 1) } ∧
    gallery.node? (galleryNode 3) = some { titleNode with parent := some (galleryNode 0) } := by
  decide +kernel

theorem gallery_scene : gallery.get? (galleryNode 0) =
    some (.node { plainNode with children := [galleryNode 1, galleryNode 3] }) :=
  node?_eq_some_iff.mp node?_gallery.1

theorem gallery_group : gallery.get? (galleryNode 1) = some (.node { plainNode with
    parent := some (galleryNode 0), children := [galleryNode 2] }) :=
  node?_eq_some_iff.mp node?_gallery.2.1

theorem gallery_inner : gallery.get? (galleryNode 2) =
    some (.node { titleNode with parent := some (galleryNode 1) }) :=
  node?_eq_some_iff.mp node?_gallery.2.2.1

theorem gallery_outer : gallery.get? (galleryNode 3) =
    some (.node { titleNode with parent := some (galleryNode 0) }) :=
  node?_eq_some_iff.mp node?_gallery.2.2.2

/-- The title in the group comes before the one behind the group. -/
theorem findNode_first_in_preorder_gallery :
    gallery.links (galleryNode 0) = some ⟨[galleryNode 1, galleryNode 3], none⟩ ∧
    gallery.id? (galleryNode 3) = some (.text "title") ∧
    gallery.callMethod .empty (galleryNode 0) "FindNode" [.text "title"] =
      ⟨.ok (.object (galleryNode 2)), gallery, []⟩ := by
  have horder : gallery.links.Preorder [galleryNode 1, galleryNode 3]
      [galleryNode 1, galleryNode 2, galleryNode 3] :=
    .cons (links_of_get? gallery_group) (.cons (links_of_get? gallery_inner) .nil .nil)
      (.cons (links_of_get? gallery_outer) .nil .nil)
  have hplain : gallery.id? (galleryNode 1) ≠ some (.text "title") := by
    rw [id?, node?_eq_some_iff.mpr gallery_group]
    decide +kernel
  have htitle : gallery.id? (galleryNode 2) = some (.text "title") := by
    rw [id?, node?_eq_some_iff.mpr gallery_inner]
    decide +kernel
  have hmethod : Name.key "FindNode" = "findnode" := by simp [Name.key_eq_iff]
  obtain ⟨-, hfinds⟩ := findNode_first_in_preorder scripted_gallery gallery_scene .empty
    hmethod "title"
  obtain ⟨-, value, hcall, hfirst, -⟩ := hfinds _ horder
  have hvalue : value = .object (galleryNode 2) :=
    (hfirst _).mpr ⟨[galleryNode 1], [galleryNode 3], rfl, htitle,
      List.forall_mem_singleton.mpr hplain⟩
  refine ⟨links_of_get? gallery_scene, ?_, hvalue ▸ hcall⟩
  rw [id?, node?_eq_some_iff.mpr gallery_outer]
  decide +kernel

end Heap

end BrightScript
