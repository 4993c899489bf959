import Mathlib
import BrightScript.Heap.Basic

/-!
The links between scene-graph nodes, apart from the heap they are kept in. Links form a forest when
parents and children agree, no child is listed twice, and no node is above itself. Detaching a node,
attaching a node without parent below a node that it is not above, adding a node without links, and
keeping only whole trees all lead from forests to forests.
-/

namespace BrightScript

/-- The links of a node: its children in order, and its parent. -/
structure Links where
  children : List Handle
  parent : Option Handle
  deriving DecidableEq

/-- The links of a node that was just made. -/
def Links.none : Links := ⟨[], Option.none⟩

/-- The links of a node. -/
def Node.links (node : Node) : Links := ⟨node.children, node.parent⟩

/-- The links of a component, if it is a node. -/
def Component.links? : Component → Option Links
  | .node data => some data.links
  | _ => none

/-- The links of the nodes that handles mean. -/
abbrev LinkMap := Handle → Option Links

namespace LinkMap

/-- One step up: the parent of a node. -/
def Up (links : LinkMap) (child parent : Handle) : Prop :=
  ∃ own, links child = some own ∧ own.parent = some parent

/-- One step down: a child of a node. -/
def Down (links : LinkMap) (parent child : Handle) : Prop :=
  ∃ own, links parent = some own ∧ child ∈ own.children

/-- Parents and children agree, no child is listed twice, and no node is above itself. -/
structure Forest (links : LinkMap) : Prop where
  up_of_down : ∀ {parent child}, links.Down parent child → links.Up child parent
  down_of_up : ∀ {child parent}, links.Up child parent → links.Down parent child
  nodup : ∀ {parent own}, links parent = some own → own.children.Nodup
  acyclic : ∀ handle, ¬ Relation.TransGen links.Up handle handle

theorem up_of_eq {links : LinkMap} {child : Handle} {own : Links} {parent : Handle}
    (hchild : links child = some own) : links.Up child parent ↔ own.parent = some parent := by
  simp [Up, hchild]

theorem down_of_eq {links : LinkMap} {parent : Handle} {own : Links} {child : Handle}
    (hparent : links parent = some own) : links.Down parent child ↔ child ∈ own.children := by
  simp [Down, hparent]

theorem forest_empty : Forest fun _ => Option.none where
  up_of_down := by
    rintro _ _ ⟨own, hown, -⟩
    cases hown
  down_of_up := by
    rintro _ _ ⟨own, hown, -⟩
    cases hown
  nodup := by
    intro _ own hown
    cases hown
  acyclic := by
    intro handle hcycle
    obtain ⟨_, ⟨own, hown, -⟩, -⟩ := Relation.TransGen.head'_iff.mp hcycle
    cases hown

/-- The links with a new node, which has none. -/
def insert (links : LinkMap) (fresh : Handle) : LinkMap := fun handle =>
  if fresh = handle then some .none else links handle

theorem Forest.insert {links : LinkMap} (hforest : links.Forest) {fresh : Handle}
    (hfresh : links fresh = none) : (links.insert fresh).Forest := by
  have hup : ∀ {child parent}, (links.insert fresh).Up child parent ↔ links.Up child parent := by
    intro child parent
    unfold Up LinkMap.insert
    by_cases hchild : fresh = child
    · subst hchild
      simp [hfresh, Links.none]
    · simp [hchild]
  have hdown : ∀ {parent child},
      (links.insert fresh).Down parent child ↔ links.Down parent child := by
    intro parent child
    unfold Down LinkMap.insert
    by_cases hparent : fresh = parent
    · subst hparent
      simp [hfresh, Links.none]
    · simp [hparent]
  constructor
  · intro parent child h
    exact hup.mpr (hforest.up_of_down (hdown.mp h))
  · intro child parent h
    exact hdown.mpr (hforest.down_of_up (hup.mp h))
  · intro parent own hown
    unfold LinkMap.insert at hown
    split at hown
    · cases hown
      exact List.nodup_nil
    · exact hforest.nodup hown
  · intro handle hcycle
    exact hforest.acyclic handle (Relation.TransGen.mono (fun _ _ => hup.mp) _ _ hcycle)

/-- The links after a node has left its parent. -/
def detach (links : LinkMap) (child : Handle) : LinkMap := fun handle =>
  (links handle).map fun own =>
    ⟨own.children.filter (· != child), if handle = child then none else own.parent⟩

theorem detach_of_eq {links : LinkMap} {handle : Handle} {own : Links}
    (hown : links handle = some own) (child : Handle) :
    links.detach child handle =
      some ⟨own.children.filter (· != child), if handle = child then none else own.parent⟩ := by
  rw [detach, hown, Option.map_some]

theorem up_detach_iff {links : LinkMap} {child node parent : Handle} :
    (links.detach child).Up node parent ↔ node ≠ child ∧ links.Up node parent := by
  unfold Up detach
  cases hnode : links node with
  | none => simp
  | some own =>
      by_cases hsame : node = child
      · simp [hsame]
      · simp [hsame]

theorem down_detach_iff {links : LinkMap} {child parent node : Handle} :
    (links.detach child).Down parent node ↔ node ≠ child ∧ links.Down parent node := by
  unfold Down detach
  cases hparent : links parent with
  | none => simp
  | some own => simp [and_comm]

theorem Forest.detach {links : LinkMap} (hforest : links.Forest) (child : Handle) :
    (links.detach child).Forest := by
  constructor
  · intro parent node h
    rw [down_detach_iff] at h
    exact up_detach_iff.mpr ⟨h.1, hforest.up_of_down h.2⟩
  · intro node parent h
    rw [up_detach_iff] at h
    exact down_detach_iff.mpr ⟨h.1, hforest.down_of_up h.2⟩
  · intro parent own hown
    obtain ⟨old, hold, rfl⟩ := Option.map_eq_some_iff.mp hown
    exact (hforest.nodup hold).filter _
  · intro handle hcycle
    exact hforest.acyclic handle (Relation.TransGen.mono
      (fun _ _ h => (up_detach_iff.mp h).2) _ _ hcycle)

/-- The links after a node has become the last child of another. -/
def attach (links : LinkMap) (parent child : Handle) : LinkMap := fun handle =>
  (links handle).map fun own =>
    ⟨if handle = parent then own.children ++ [child] else own.children,
      if handle = child then some parent else own.parent⟩

theorem transGen_insert {r : Handle → Handle → Prop} {child parent first last : Handle}
    (hway : Relation.TransGen (fun a b => r a b ∨ a = child ∧ b = parent) first last) :
    Relation.TransGen r first last ∨
      Relation.ReflTransGen r first child ∧ Relation.ReflTransGen r parent last := by
  induction hway with
  | single hstep =>
      rcases hstep with hstep | ⟨rfl, rfl⟩
      · exact .inl (.single hstep)
      · exact .inr ⟨.refl, .refl⟩
  | tail _ hstep ih =>
      rcases hstep with hstep | ⟨rfl, rfl⟩
      · rcases ih with hway | ⟨hbelow, habove⟩
        · exact .inl (hway.tail hstep)
        · exact .inr ⟨hbelow, habove.tail hstep⟩
      · rcases ih with hway | ⟨hbelow, -⟩
        · exact .inr ⟨hway.to_reflTransGen, .refl⟩
        · exact .inr ⟨hbelow, .refl⟩

theorem Forest.attach {links : LinkMap} (hforest : links.Forest) {parent child : Handle}
    {parentLinks childLinks : Links} (hparent : links parent = some parentLinks)
    (hchild : links child = some childLinks) (hroot : childLinks.parent = none)
    (hdiffer : child ≠ parent) (hbelow : ¬ Relation.TransGen links.Up parent child) :
    (links.attach parent child).Forest := by
  have hnoParent : ∀ other, ¬ links.Up child other := by
    intro other h
    rw [up_of_eq hchild, hroot] at h
    cases h
  have hup : ∀ {node other}, (links.attach parent child).Up node other ↔
      links.Up node other ∨ node = child ∧ other = parent := by
    intro node other
    by_cases hnode : node = child
    · subst hnode
      simp [Up, LinkMap.attach, hchild, hroot, eq_comm]
    · simp [Up, LinkMap.attach, hnode]
  have hdown : ∀ {node other}, (links.attach parent child).Down node other ↔
      links.Down node other ∨ other = child ∧ node = parent := by
    intro node other
    by_cases hnode : node = parent
    · subst hnode
      simp [Down, LinkMap.attach, hparent]
    · simp [Down, LinkMap.attach, hnode]
  constructor
  · intro node other h
    rcases hdown.mp h with h | ⟨rfl, rfl⟩
    · exact hup.mpr (.inl (hforest.up_of_down h))
    · exact hup.mpr (.inr ⟨rfl, rfl⟩)
  · intro node other h
    rcases hup.mp h with h | ⟨rfl, rfl⟩
    · exact hdown.mpr (.inl (hforest.down_of_up h))
    · exact hdown.mpr (.inr ⟨rfl, rfl⟩)
  · intro node own hown
    obtain ⟨old, hold, rfl⟩ := Option.map_eq_some_iff.mp hown
    by_cases hnode : node = parent
    · subst hnode
      have hnotChild : child ∉ old.children := fun hmem =>
        hnoParent node (hforest.up_of_down ((down_of_eq hold).mpr hmem))
      simp only [if_true]
      rw [List.nodup_append]
      refine ⟨hforest.nodup hold, List.nodup_singleton child, ?_⟩
      intro other hother _ hlast
      rw [List.mem_singleton.mp hlast]
      rintro rfl
      exact hnotChild hother
    · simp only [hnode, if_false]
      exact hforest.nodup hold
  · intro handle hcycle
    rcases transGen_insert (Relation.TransGen.mono (fun _ _ => hup.mp) _ _ hcycle) with
      hway | ⟨hfirst, hlast⟩
    · exact hforest.acyclic handle hway
    · rcases Relation.reflTransGen_iff_eq_or_transGen.mp (hlast.trans hfirst) with hsame | hway
      · exact hdiffer hsame
      · exact hbelow hway

/-- Moving a node below one that it is not above. -/
theorem Forest.move {links : LinkMap} (hforest : links.Forest) {parent child : Handle}
    {parentLinks childLinks : Links} (hparent : links parent = some parentLinks)
    (hchild : links child = some childLinks) (hdiffer : child ≠ parent)
    (hbelow : ¬ Relation.TransGen links.Up parent child) :
    ((links.detach child).attach parent child).Forest := by
  refine (hforest.detach child).attach (detach_of_eq hparent child) (detach_of_eq hchild child)
    (if_pos rfl) hdiffer ?_
  intro hway
  exact hbelow (Relation.TransGen.mono (fun _ _ h => (up_detach_iff.mp h).2) _ _ hway)

/-- A part of a forest that holds the relatives of each of its nodes is a forest. -/
theorem Forest.restrict {links kept : LinkMap} (hforest : links.Forest)
    (hkept : ∀ {handle own}, kept handle = some own → links handle = some own)
    (hup : ∀ {child parent}, kept.Up child parent → ∃ own, kept parent = some own)
    (hdown : ∀ {parent child}, kept.Down parent child → ∃ own, kept child = some own) :
    kept.Forest := by
  have hupKept : ∀ {child parent}, kept.Up child parent → links.Up child parent := by
    rintro child parent ⟨own, hown, hparent⟩
    exact ⟨own, hkept hown, hparent⟩
  have hdownKept : ∀ {parent child}, kept.Down parent child → links.Down parent child := by
    rintro parent child ⟨own, hown, hchild⟩
    exact ⟨own, hkept hown, hchild⟩
  constructor
  · intro parent child h
    obtain ⟨own, hown⟩ := hdown h
    have habove := hforest.up_of_down (hdownKept h)
    exact (up_of_eq hown).mpr ((up_of_eq (hkept hown)).mp habove)
  · intro child parent h
    obtain ⟨own, hown⟩ := hup h
    have hbelow := hforest.down_of_up (hupKept h)
    exact (down_of_eq hown).mpr ((down_of_eq (hkept hown)).mp hbelow)
  · intro parent own hown
    exact hforest.nodup (hkept hown)
  · intro handle hcycle
    exact hforest.acyclic handle (Relation.TransGen.mono (fun _ _ => hupKept) _ _ hcycle)

end LinkMap

end BrightScript
