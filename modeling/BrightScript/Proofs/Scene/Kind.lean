import BrightScript.Proofs.Attempt
import BrightScript.Proofs.Dictionary
import BrightScript.Scene.Kind

namespace BrightScript

/-- A kind on the way to `Node`: its spelling, and the fields that it lays over those of its
base. -/
structure KindLayer where
  name : String
  fields : List (String × Value)

/-- A built-in kind; what is declared under its name only lays more fields over its own. -/
def KindLayer.builtin (kind : NodeDefinition) (declared : Option NodeDefinition) : KindLayer :=
  ⟨kind.name, kind.fields ++ (declared.map NodeDefinition.fields).getD []⟩

/-- A declared kind. -/
def KindLayer.declared (definition : NodeDefinition) : KindLayer :=
  ⟨definition.name, definition.fields⟩

namespace NodeCatalog

/-- The kinds from the one of a name up to `Node`. A built-in kind leads to its own base, a declared
one to the kind that it extends, or to `Node` where it names none. -/
inductive Chain (catalog : NodeCatalog) : String → List KindLayer → Prop where
  | root {name : String} {kind : NodeDefinition} :
    NodeKind.builtin? name = some kind → kind.name = "Node" →
      Chain catalog name [.builtin kind (catalog.get? name)]
  | builtin {name base : String} {kind : NodeDefinition} {chain : List KindLayer} :
    NodeKind.builtin? name = some kind → kind.base = some base → Chain catalog base chain →
      Chain catalog name (.builtin kind (catalog.get? name) :: chain)
  | declared {name : String} {definition : NodeDefinition} {chain : List KindLayer} :
    NodeKind.builtin? name = none → catalog.get? name = some definition →
      Chain catalog (definition.base.getD "Node") chain →
        Chain catalog name (.declared definition :: chain)

variable {catalog : NodeCatalog} {name : String} {chain : List KindLayer}

theorem base_eq_none_iff {kind : NodeDefinition} (hkind : NodeKind.builtin? name = some kind) :
    kind.base = none ↔ kind.name = "Node" := by
  have htable : ∀ kind ∈ NodeKind.builtins, kind.base = none ↔ kind.name = "Node" := by decide
  exact htable kind (List.mem_of_find?_eq_some hkind)

theorem get?_declare (catalog : NodeCatalog) (definition : NodeDefinition) (name : String) :
    (catalog.declare definition).get? name =
      if Name.key name = Name.key definition.name then some definition else catalog.get? name :=
  catalog.definitions.get?_insert definition.name name definition

theorem Chain.unique {other : List KindLayer} (hchain : catalog.Chain name chain)
    (hother : catalog.Chain name other) : chain = other := by
  induction hchain generalizing other with
  | root hkind hroot =>
      cases hother with
      | root hkind' _ => rw [Option.some.inj (hkind.symm.trans hkind')]
      | builtin hkind' hbase _ =>
          obtain rfl := Option.some.inj (hkind.symm.trans hkind')
          rw [(base_eq_none_iff hkind).mpr hroot] at hbase
          cases hbase
      | declared hnone => rw [hkind] at hnone; cases hnone
  | builtin hkind hbase _ ih =>
      cases hother with
      | root hkind' hroot =>
          obtain rfl := Option.some.inj (hkind.symm.trans hkind')
          rw [(base_eq_none_iff hkind).mpr hroot] at hbase
          cases hbase
      | builtin hkind' hbase' hrest =>
          obtain rfl := Option.some.inj (hkind.symm.trans hkind')
          obtain rfl := Option.some.inj (hbase.symm.trans hbase')
          rw [ih hrest]
      | declared hnone => rw [hkind] at hnone; cases hnone
  | declared hnone hget _ ih =>
      cases hother with
      | root hkind => rw [hnone] at hkind; cases hkind
      | builtin hkind => rw [hnone] at hkind; cases hkind
      | declared _ hget' hrest =>
          obtain rfl := Option.some.inj (hget.symm.trans hget')
          rw [ih hrest]

/-- The node that a chain of kinds gives. -/
def nodeOf (chain : List KindLayer) : Node where
  subtype := (chain.head?.map KindLayer.name).getD ""
  ancestry := chain.map KindLayer.name
  fields := .ofList (chain.reverse.flatMap KindLayer.fields)

theorem fields_nodeOf_cons (layer : KindLayer) (chain : List KindLayer) :
    (nodeOf (layer :: chain)).fields = (nodeOf chain).fields.insertMany layer.fields := by
  change Dictionary.ofList ((layer :: chain).reverse.flatMap KindLayer.fields) = _
  rw [List.reverse_cons, List.flatMap_append, List.flatMap_singleton, Dictionary.ofList,
    Dictionary.insertMany_append]
  rfl

/-- A draft of the base becomes one of the kind that extends it. -/
def raise (draft : NodeDraft) (layer : KindLayer) (warnings : List String) : NodeDraft :=
  ⟨{ draft.node with
      subtype := layer.name
      ancestry := layer.name :: draft.node.ancestry
      fields := draft.node.fields.insertMany layer.fields }, draft.warnings ++ warnings⟩

theorem raise_builtin (draft : NodeDraft) (kind : NodeDefinition)
    (declared : Option NodeDefinition) :
    ((draft.warn (baseWarnings kind.name declared)).specialize kind.name kind.fields).overlay
        ((declared.map NodeDefinition.fields).getD []) =
      raise draft (.builtin kind declared) (baseWarnings kind.name declared) := by
  simp only [NodeDraft.overlay, NodeDraft.specialize, NodeDraft.warn, raise, KindLayer.builtin,
    Dictionary.insertMany_append]

theorem raise_declared (draft : NodeDraft) (definition : NodeDefinition) :
    draft.specialize definition.name definition.fields =
      raise draft (.declared definition) [] := by
  simp only [NodeDraft.specialize, raise, KindLayer.declared, List.append_nil]

theorem node_raise {draft : NodeDraft} (hdraft : draft.node = nodeOf chain) (layer : KindLayer)
    (warnings : List String) : (raise draft layer warnings).node = nodeOf (layer :: chain) := by
  unfold raise
  rw [hdraft, ← fields_nodeOf_cons]
  rfl

theorem draftWithin_root (limit : Nat) {kind : NodeDefinition}
    (hkind : NodeKind.builtin? name = some kind) (hroot : kind.name = "Node") :
    catalog.draftWithin (limit + 1) name =
      .ok (raise .blank (.builtin kind (catalog.get? name))
        (baseWarnings kind.name (catalog.get? name))) := by
  have hbase := (base_eq_none_iff hkind).mpr hroot
  simp only [draftWithin, hkind, hbase, ← raise_builtin]
  rfl

theorem draftWithin_builtin (limit : Nat) {kind : NodeDefinition} {base : String}
    (hkind : NodeKind.builtin? name = some kind) (hbase : kind.base = some base) :
    catalog.draftWithin (limit + 1) name =
      (raise · (.builtin kind (catalog.get? name))
        (baseWarnings kind.name (catalog.get? name))) <$> catalog.draftWithin limit base := by
  simp only [draftWithin, hkind, hbase, ← raise_builtin]
  rfl

theorem draftWithin_declared (limit : Nat) {definition : NodeDefinition}
    (hnone : NodeKind.builtin? name = none) (hget : catalog.get? name = some definition) :
    catalog.draftWithin (limit + 1) name =
      (raise · (.declared definition) []) <$>
        catalog.draftWithin limit (definition.base.getD "Node") := by
  simp only [draftWithin, hnone, hget, ← raise_declared]
  rfl

theorem draftWithin_unknown (limit : Nat) (hnone : NodeKind.builtin? name = none)
    (hget : catalog.get? name = none) :
    catalog.draftWithin (limit + 1) name = .error (.unknownKind name) := by
  simp only [draftWithin, hnone, hget]

/-- A chain that is not too long gives a node. -/
theorem exists_draft_of_chain (hchain : catalog.Chain name chain) {limit : Nat}
    (hlimit : chain.length ≤ limit) :
    ∃ draft, catalog.draftWithin limit name = .ok draft ∧ draft.node = nodeOf chain := by
  induction hchain generalizing limit with
  | root hkind hroot =>
      cases limit with
      | zero => cases hlimit
      | succ limit => exact ⟨_, draftWithin_root limit hkind hroot, node_raise rfl _ _⟩
  | builtin hkind hbase _ ih =>
      cases limit with
      | zero => cases hlimit
      | succ limit =>
          obtain ⟨inner, hinner, hnode⟩ := ih (Nat.le_of_succ_le_succ hlimit)
          rw [draftWithin_builtin limit hkind hbase, hinner]
          exact ⟨_, rfl, node_raise hnode _ _⟩
  | declared hnone hget _ ih =>
      cases limit with
      | zero => cases hlimit
      | succ limit =>
          obtain ⟨inner, hinner, hnode⟩ := ih (Nat.le_of_succ_le_succ hlimit)
          rw [draftWithin_declared limit hnone hget, hinner]
          exact ⟨_, rfl, node_raise hnode _ _⟩

/-- A node is made along a chain that is not too long. -/
theorem exists_chain_of_draft {limit : Nat} {draft : NodeDraft}
    (hdraft : catalog.draftWithin limit name = .ok draft) :
    ∃ chain, catalog.Chain name chain ∧ chain.length ≤ limit := by
  induction limit generalizing name draft with
  | zero => cases hdraft
  | succ limit ih =>
      cases hkind : NodeKind.builtin? name with
      | some kind =>
          cases hbase : kind.base with
          | none => exact ⟨_, .root hkind ((base_eq_none_iff hkind).mp hbase), by simp⟩
          | some base =>
              rw [draftWithin_builtin limit hkind hbase] at hdraft
              obtain ⟨inner, hinner, -⟩ := map_eq_ok_iff.mp hdraft
              obtain ⟨chain, hchain, hlength⟩ := ih hinner
              exact ⟨_, .builtin hkind hbase hchain, Nat.succ_le_succ hlength⟩
      | none =>
          cases hget : catalog.get? name with
          | some definition =>
              rw [draftWithin_declared limit hkind hget] at hdraft
              obtain ⟨inner, hinner, -⟩ := map_eq_ok_iff.mp hdraft
              obtain ⟨chain, hchain, hlength⟩ := ih hinner
              exact ⟨_, .declared hkind hget hchain, Nat.succ_le_succ hlength⟩
          | none =>
              rw [draftWithin_unknown limit hkind hget] at hdraft
              cases hdraft

theorem node_of_draft {draft : NodeDraft} (hdraft : catalog.draft name = .ok draft)
    (hchain : catalog.Chain name chain) : draft.node = nodeOf chain := by
  obtain ⟨other, hother, hlength⟩ := exists_chain_of_draft hdraft
  rw [hother.unique hchain] at hlength
  obtain ⟨made, hmade, hnode⟩ := exists_draft_of_chain hchain hlength
  cases hmade.symm.trans hdraft
  exact hnode

/-- A node of a kind can be made just if the kinds that it extends lead to `Node` soon enough. Its
fields are then those of these kinds, laid over one another from `Node` down: each stands where its
name occurs first, as it is spelled there, and has the value that it was given last. -/
theorem draft_follows_chain (catalog : NodeCatalog) (name : String) :
    ((∃ draft, catalog.draft name = .ok draft) ↔
      ∃ chain, catalog.Chain name chain ∧ chain.length ≤ NodeKind.maxBases + 1) ∧
    ∀ draft chain, catalog.draft name = .ok draft → catalog.Chain name chain →
      draft.node.ancestry = chain.map KindLayer.name ∧
      chain.head?.map KindLayer.name = some draft.node.subtype ∧
      draft.node.fields.names = Dictionary.firstNames Name.key
        ((chain.reverse.flatMap KindLayer.fields).map Prod.fst) ∧
      draft.node.fields.names.Pairwise (fun left right => Name.same left right = false) ∧
      (∀ field, draft.node.fields.get? field =
        ((chain.reverse.flatMap KindLayer.fields).reverse.find? fun entry =>
          Name.same entry.1 field).map Prod.snd) ∧
      draft.node.children = [] ∧ draft.node.parent = none := by
  constructor
  · constructor
    · rintro ⟨draft, hdraft⟩
      exact exists_chain_of_draft hdraft
    · rintro ⟨chain, hchain, hlength⟩
      obtain ⟨draft, hdraft, -⟩ := exists_draft_of_chain hchain hlength
      exact ⟨draft, hdraft⟩
  · intro draft chain hdraft hchain
    rw [node_of_draft hdraft hchain]
    refine ⟨rfl, ?_, Dictionary.names_ofList _, ?_, Dictionary.get?_ofList _, rfl, rfl⟩
    · cases hchain <;> rfl
    · have hdistinct := @Dictionary.pairwise_names_ofList Name.key Value
        (chain.reverse.flatMap KindLayer.fields)
      exact hdistinct.imp fun hne => beq_eq_false_iff_ne.mpr hne

/-- A badge is a card. -/
def badge : NodeDefinition :=
  ⟨"Badge", some "CARD", [("Text", .text "new"), ("ID", .text "badge")]⟩

/-- A card extends `Node`. -/
def card : NodeDefinition := ⟨"card", none, [("text", .text ""), ("count", .integer 3)]⟩

/-- Every node has one field more; the base is ignored. -/
def hinted : NodeDefinition := ⟨"node", some "Sprocket", [("hint", .invalid)]⟩

theorem draft_follows_chain_badge :
    ∃ draft, (((empty.declare badge).declare card).declare hinted).draft "badge" = .ok draft ∧
      draft.node.ancestry = ["Badge", "card", "Node"] ∧
      draft.node.fields.get? "TEXT" = some (.text "new") ∧
      draft.node.fields.get? "id" = some (.text "badge") := by
  have hkeys : Name.key "badge" = "badge" ∧ Name.key badge.name = "badge" ∧
      Name.key "CARD" = "card" ∧ Name.key card.name = "card" ∧ Name.key "Node" = "node" ∧
      Name.key hinted.name = "node" := by decide +kernel
  obtain ⟨hbadgeKey, hbadgeName, hcardKey, hcardName, hnodeKey, hhintedName⟩ := hkeys
  obtain ⟨badges, hbadges⟩ :
      ∃ badges, badges = ((empty.declare badge).declare card).declare hinted := ⟨_, rfl⟩
  have hbadge : badges.get? "badge" = some badge := by
    rw [hbadges, get?_declare, get?_declare, get?_declare, hbadgeKey, hhintedName, hcardName,
      hbadgeName, if_neg (by decide), if_neg (by decide), if_pos rfl]
  have hcard : badges.get? "CARD" = some card := by
    rw [hbadges, get?_declare, get?_declare, hcardKey, hhintedName, hcardName,
      if_neg (by decide), if_pos rfl]
  have hhinted : badges.get? "Node" = some hinted := by
    rw [hbadges, get?_declare, hnodeKey, hhintedName, if_pos rfl]
  rw [← hbadges]
  have hroot : NodeKind.builtin? "Node" = some _ := List.find?_cons_of_pos (by decide +kernel)
  have hnode : badges.Chain "Node" _ := .root hroot rfl
  rw [hhinted] at hnode
  have hchain : badges.Chain "badge" _ :=
    .declared (by decide +kernel) hbadge (.declared (by decide +kernel) hcard hnode)
  obtain ⟨hmade, hdraft⟩ := draft_follows_chain badges "badge"
  obtain ⟨draft, hok⟩ := hmade.mpr ⟨_, hchain, by decide⟩
  obtain ⟨hancestry, -, -, -, hvalue, -⟩ := hdraft draft _ hok hchain
  have hid : Name.key "id" = "id" ∧ Name.key "ID" = "id" := by simp [Name.key_eq_iff]
  have htext : Name.key "TEXT" = "text" ∧ Name.key "Text" = "text" := by simp [Name.key_eq_iff]
  have hfirst : Name.same "ID" "id" = true := by
    rw [Name.same, hid.1, hid.2, beq_self_eq_true]
  have hother : Name.same "ID" "TEXT" = false := by
    rw [Name.same, hid.2, htext.1, beq_eq_false_iff_ne.mpr (by decide)]
  have hsecond : Name.same "Text" "TEXT" = true := by
    rw [Name.same, htext.1, htext.2, beq_self_eq_true]
  -- the badge's own fields are the first to be found
  have hname : ∀ rest : List (String × Value), List.find? (fun entry => Name.same entry.1 "id")
      (("ID", .text "badge") :: ("Text", .text "new") :: rest) = some ("ID", .text "badge") :=
    fun _ => List.find?_cons_of_pos hfirst
  have hcaption : ∀ rest : List (String × Value), List.find? (fun entry => Name.same entry.1 "TEXT")
      (("ID", .text "badge") :: ("Text", .text "new") :: rest) = some ("Text", .text "new") :=
    fun _ => Eq.trans (List.find?_cons_of_neg (by rw [hother]; exact Bool.false_ne_true))
      (List.find?_cons_of_pos hsecond)
  exact ⟨draft, hok, hancestry,
    (hvalue "TEXT").trans (congrArg (Option.map Prod.snd) (hcaption _)),
    (hvalue "id").trans (congrArg (Option.map Prod.snd) (hname _))⟩

end NodeCatalog

end BrightScript
