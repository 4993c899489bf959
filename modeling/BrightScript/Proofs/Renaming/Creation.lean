import BrightScript.Proofs.Component.Creation
import BrightScript.Proofs.Renaming.Heap

namespace BrightScript

namespace NodeDraft

theorem specialize_rename (f : Handle → Handle) (draft : NodeDraft) (subtype : String)
    (fields : List (String × Value)) :
    (draft.rename f).specialize subtype (renameFields f fields) =
      (draft.specialize subtype fields).rename f := by
  simp only [specialize, rename, Node.rename, renameFields, Dictionary.insertMany_mapValues]

theorem overlay_rename (f : Handle → Handle) (draft : NodeDraft) (fields : List (String × Value)) :
    (draft.rename f).overlay (renameFields f fields) = (draft.overlay fields).rename f := by
  simp only [overlay, rename, Node.rename, renameFields, Dictionary.insertMany_mapValues]

end NodeDraft

theorem NodeKind.object?_builtins {kind : NodeDefinition} (hkind : kind ∈ NodeKind.builtins)
    {field : String × Value} (hfield : field ∈ kind.fields) : field.2.object? = none := by
  have hplain : ∀ kind ∈ NodeKind.builtins, ∀ field ∈ kind.fields, field.2.object? = none := by
    decide
  exact hplain kind hkind field hfield

theorem NodeKind.renameFields_builtins (f : Handle → Handle) {kind : NodeDefinition}
    (hkind : kind ∈ NodeKind.builtins) : renameFields f kind.fields = kind.fields := by
  conv_rhs => rw [← List.map_id kind.fields]
  refine List.map_congr_left fun field hfield => ?_
  rw [Value.rename_eq_self (object?_builtins hkind hfield), id_eq]

namespace NodeCatalog

theorem complete_rename (f : Handle → Handle) {kind : NodeDefinition}
    (hkind : kind ∈ NodeKind.builtins) (declared : Option NodeDefinition) (base : NodeDraft) :
    (((base.rename f).warn (baseWarnings kind.name (declared.map (NodeDefinition.rename f)))
      ).specialize kind.name kind.fields).overlay
        (((declared.map (NodeDefinition.rename f)).map NodeDefinition.fields).getD []) =
      (((base.warn (baseWarnings kind.name declared)).specialize kind.name kind.fields).overlay
        ((declared.map NodeDefinition.fields).getD [])).rename f := by
  have hspecialize := NodeDraft.specialize_rename f
    (base.warn (baseWarnings kind.name declared)) kind.name kind.fields
  rw [NodeKind.renameFields_builtins f hkind] at hspecialize
  rw [baseWarnings_rename]
  change (((base.warn (baseWarnings kind.name declared)).rename f).specialize kind.name
    kind.fields).overlay _ = _
  rw [hspecialize]
  cases declared with
  | none => exact NodeDraft.overlay_rename f _ []
  | some definition => exact NodeDraft.overlay_rename f _ definition.fields

theorem draftWithin_rename (f : Handle → Handle) (catalog : NodeCatalog) (limit : Nat)
    (name : String) :
    (catalog.rename f).draftWithin limit name =
      NodeDraft.rename f <$> catalog.draftWithin limit name := by
  induction limit generalizing name with
  | zero => rfl
  | succ limit ih =>
      unfold draftWithin
      simp only [get?_rename]
      cases hbuiltin : NodeKind.builtin? name with
      | some kind =>
          have hkind : kind ∈ NodeKind.builtins := List.mem_of_find?_eq_some hbuiltin
          dsimp only
          cases kind.base with
          | none => exact congrArg Except.ok (complete_rename f hkind _ .blank)
          | some base =>
              simp only [ih]
              cases catalog.draftWithin limit base with
              | error e => rfl
              | ok draft => exact congrArg Except.ok (complete_rename f hkind _ draft)
      | none =>
          cases catalog.get? name with
          | none => rfl
          | some definition =>
              simp only [Option.map_some, NodeDefinition.rename, ih]
              cases catalog.draftWithin limit (definition.base.getD "Node") with
              | error e => rfl
              | ok draft => exact congrArg Except.ok (NodeDraft.specialize_rename f draft _ _)

theorem draft_rename (f : Handle → Handle) (catalog : NodeCatalog) (name : String) :
    (catalog.rename f).draft name = NodeDraft.rename f <$> catalog.draft name :=
  draftWithin_rename f catalog _ name

theorem holds_declared {heap : Heap} {catalog : NodeCatalog}
    (hcatalog : heap.Covers catalog.references) {name : String} {definition : NodeDefinition}
    (hget : catalog.get? name = some definition) :
    ∀ value ∈ definition.fields.map Prod.snd, heap.Holds value := by
  refine Heap.covers_handles.mp (Heap.covers_subset ?_ hcatalog)
  intro handle hhandle
  exact mem_references.mpr ⟨definition, Dictionary.mem_values_of_get? hget, hhandle⟩

theorem holds_complete {heap : Heap} {catalog : NodeCatalog}
    (hcatalog : heap.Covers catalog.references) {name : String} {kind : NodeDefinition}
    (hkind : NodeKind.builtin? name = some kind) {base : NodeDraft}
    (hbase : ∀ value ∈ base.node.fields.values, heap.Holds value) {warnings : List String} :
    ∀ value ∈ (((base.warn warnings).specialize kind.name kind.fields).overlay
      (((catalog.get? name).map NodeDefinition.fields).getD [])).node.fields.values,
      heap.Holds value := by
  intro value hvalue
  rcases Dictionary.mem_values_insertMany hvalue with hvalue | hvalue
  · rcases Dictionary.mem_values_insertMany hvalue with hvalue | hvalue
    · exact hbase value hvalue
    · obtain ⟨field, hfield, rfl⟩ := List.mem_map.mp hvalue
      intro handle hhandle
      rw [NodeKind.object?_builtins (List.mem_of_find?_eq_some hkind) hfield] at hhandle
      cases hhandle
  · cases hget : catalog.get? name with
    | none => simp [hget] at hvalue
    | some definition =>
        rw [hget] at hvalue
        exact holds_declared hcatalog hget value hvalue

theorem holds_draftWithin {heap : Heap} {catalog : NodeCatalog}
    (hcatalog : heap.Covers catalog.references) {limit : Nat} {name : String} {draft : NodeDraft}
    (hdraft : catalog.draftWithin limit name = .ok draft) :
    ∀ value ∈ draft.node.fields.values, heap.Holds value := by
  induction limit generalizing name draft with
  | zero => cases hdraft
  | succ limit ih =>
      unfold draftWithin at hdraft
      dsimp only at hdraft
      split at hdraft
      · rename_i kind hkind
        split at hdraft
        · obtain ⟨base, hbase, hdraft⟩ := bind_eq_ok_iff.mp hdraft
          cases hdraft
          exact holds_complete hcatalog hkind (ih hbase)
        · obtain ⟨base, hbase, hdraft⟩ := bind_eq_ok_iff.mp hdraft
          cases hbase
          cases hdraft
          exact holds_complete hcatalog hkind
            (by simp [NodeDraft.blank, Dictionary.empty, Dictionary.values])
      · rename_i definition _ hget
        obtain ⟨base, hbase, hdraft⟩ := bind_eq_ok_iff.mp hdraft
        cases hdraft
        intro value hvalue
        rcases Dictionary.mem_values_insertMany hvalue with hvalue | hvalue
        · exact ih hbase value hvalue
        · exact holds_declared hcatalog hget value hvalue
      · cases hdraft

theorem covers_draft {heap : Heap} {catalog : NodeCatalog}
    (hcatalog : heap.Covers catalog.references) {name : String} {draft : NodeDraft}
    (hdraft : catalog.draft name = .ok draft) :
    heap.Covers (Component.node draft.node).references := by
  have hlinks := links_draft hdraft
  have hchildren : draft.node.children = [] := congrArg Links.children hlinks
  have hparent : draft.node.parent = none := congrArg Links.parent hlinks
  rw [Component.references, hchildren, hparent]
  simpa using holds_draftWithin hcatalog hdraft

end NodeCatalog

/-- The new component with its handles renamed. -/
def Creation.rename (f : Handle → Handle) (creation : Creation) : Creation :=
  ⟨creation.component.rename f, creation.warnings⟩

namespace Constructor

/-- What a constructor makes depends on handles only through the catalog, and holds no others. -/
structure CommutesWithRenaming (constructor : Constructor) : Prop where
  make_rename : ∀ (f : Handle → Handle) (kind : String) (clock : Nat) (catalog : NodeCatalog)
    (arguments : List Value),
    constructor.make kind clock (catalog.rename f) (arguments.map (Value.rename f)) =
      Creation.rename f <$> constructor.make kind clock catalog arguments
  covers : ∀ {heap : Heap} {kind : String} {clock : Nat} {catalog : NodeCatalog}
    {arguments : List Value} {creation : Creation}, heap.Covers catalog.references →
    constructor.make kind clock catalog arguments = .ok creation →
    heap.Covers creation.component.references

theorem expect_rename (f : Handle → Handle) (kind : String) (arguments : List Value)
    (least most : Nat) :
    expect kind (arguments.map (Value.rename f)) least most = expect kind arguments least most := by
  simp [expect]

theorem textArgument_rename (f : Handle → Handle) (kind : String) (arguments : List Value)
    (position : Nat) :
    textArgument kind (arguments.map (Value.rename f)) position =
      textArgument kind arguments position := by
  simp only [textArgument, List.getElem?_map]
  cases arguments[position]? with
  | none => rfl
  | some value => cases value <;> rfl

theorem wrap_rename (f : Handle → Handle) (kind : String) {made : Except String Component}
    (hmade : ∀ component, made = .ok component → component.references = []) :
    wrap kind made = Creation.rename f <$> wrap kind made := by
  cases made with
  | error reason => rfl
  | ok component =>
      refine congrArg Except.ok ?_
      rw [Creation.rename, Component.rename_eq_self (hmade component rfl)]

theorem covers_wrap {heap : Heap} {kind : String} {made : Except String Component}
    (hmade : ∀ component, made = .ok component → component.references = []) {creation : Creation}
    (hcreation : wrap kind made = .ok creation) : heap.Covers creation.component.references := by
  rw [hmade _ (eq_ok_of_wrap hcreation)]
  exact Heap.covers_nil

theorem commutes_plain {make : Nat → Component} (hmake : ∀ clock, (make clock).references = []) :
    (plain make).CommutesWithRenaming where
  make_rename f kind clock catalog arguments := by
    simp only [Constructor.make, expect_rename]
    cases expect kind arguments 0 0 with
    | error e => rfl
    | ok _ =>
        refine congrArg Except.ok ?_
        rw [Creation.rename, Component.rename_eq_self (hmake clock)]
  covers := by
    intro heap kind clock catalog arguments creation _ hcreation
    obtain ⟨_, -, hcreation⟩ := bind_eq_ok_iff.mp hcreation
    cases hcreation
    rw [hmake clock]
    exact Heap.covers_nil

theorem commutes_optionalText {make : Option String → Except String Component}
    (hmake : ∀ text component, make text = .ok component → component.references = []) :
    (optionalText make).CommutesWithRenaming where
  make_rename f kind clock catalog arguments := by
    simp only [Constructor.make, expect_rename, textArgument_rename, List.isEmpty_map, map_bind]
    refine congrArg (expect kind arguments 0 1 >>= ·) (funext fun _ => ?_)
    split
    · exact wrap_rename f kind (hmake none)
    · rw [map_bind]
      exact congrArg (_ >>= ·) (funext fun text => wrap_rename f kind (hmake text))
  covers := by
    intro heap kind clock catalog arguments creation _ hcreation
    obtain ⟨_, -, hcreation⟩ := bind_eq_ok_iff.mp hcreation
    dsimp only at hcreation
    split at hcreation
    · obtain ⟨text, -, hcreation⟩ := bind_eq_ok_iff.mp hcreation
      exact covers_wrap (hmake text) hcreation
    · obtain ⟨text, -, hcreation⟩ := bind_eq_ok_iff.mp hcreation
      exact covers_wrap (hmake text) hcreation

theorem commutes_textPair {make : String → String → Except String Component}
    (hmake : ∀ first second component, make first second = .ok component →
      component.references = []) : (textPair make).CommutesWithRenaming where
  make_rename f kind clock catalog arguments := by
    simp only [Constructor.make, expect_rename, textArgument_rename, map_bind]
    refine congrArg (_ >>= ·) (funext fun _ => congrArg (_ >>= ·) (funext fun first =>
      congrArg (_ >>= ·) (funext fun second => wrap_rename f kind (hmake first second))))
  covers := by
    intro heap kind clock catalog arguments creation _ hcreation
    obtain ⟨_, -, hcreation⟩ := bind_eq_ok_iff.mp hcreation
    obtain ⟨first, -, hcreation⟩ := bind_eq_ok_iff.mp hcreation
    obtain ⟨second, -, hcreation⟩ := bind_eq_ok_iff.mp hcreation
    exact covers_wrap (hmake first second) hcreation

theorem commutes_custom {make : List Value → Except CreationError Component}
    (hrename : ∀ f arguments, make (arguments.map (Value.rename f)) = make arguments)
    (hmake : ∀ arguments component, make arguments = .ok component → component.references = []) :
    (custom make).CommutesWithRenaming where
  make_rename f kind clock catalog arguments := by
    simp only [Constructor.make, hrename]
    cases hmade : make arguments with
    | error e => rfl
    | ok component =>
        refine congrArg Except.ok ?_
        rw [Creation.rename, Component.rename_eq_self (hmake arguments component hmade)]
  covers := by
    intro heap kind clock catalog arguments creation _ hcreation
    obtain ⟨component, hcomponent, hcreation⟩ := bind_eq_ok_iff.mp hcreation
    cases hcreation
    rw [hmake arguments component hcomponent]
    exact Heap.covers_nil

theorem commutes_node : node.CommutesWithRenaming where
  make_rename f kind clock catalog arguments := by
    simp only [Constructor.make, expect_rename, textArgument_rename, map_bind]
    refine congrArg (_ >>= ·) (funext fun _ => congrArg (_ >>= ·) (funext fun name => ?_))
    rw [makeNode, makeNode, NodeCatalog.draft_rename]
    cases catalog.draft name <;> rfl
  covers := by
    intro heap kind clock catalog arguments creation hcatalog hcreation
    obtain ⟨_, -, hcreation⟩ := bind_eq_ok_iff.mp hcreation
    obtain ⟨name, -, hcreation⟩ := bind_eq_ok_iff.mp hcreation
    unfold makeNode at hcreation
    split at hcreation
    · rename_i draft hdraft
      cases hcreation
      exact NodeCatalog.covers_draft hcatalog hdraft
    · cases hcreation

end Constructor

namespace Registry

theorem makeArray_rename (f : Handle → Handle) (arguments : List Value) :
    makeArray (arguments.map (Value.rename f)) = makeArray arguments := by
  match arguments with
  | [] => rfl
  | [first] => cases first <;> rfl
  | [first, second] => cases first <;> cases second <;> rfl
  | first :: second :: third :: rest => simp [makeArray]

theorem all_commutes_builtin : builtin.All Constructor.CommutesWithRenaming := by
  unfold builtin
  refine .register (.register (.register (.register (.register (.register (.register (.register
    (.register (all_empty _) _ ?_) _ ?_) _ ?_) _ ?_) _ ?_) _ ?_) _ ?_) _ ?_) _ ?_
  · refine Constructor.commutes_custom makeArray_rename fun arguments component hmake => ?_
    rw [makeArray_eq hmake]
    rfl
  · exact Constructor.commutes_plain fun _ => rfl
  · exact Constructor.commutes_plain fun _ => rfl
  · exact Constructor.commutes_plain fun _ => rfl
  · refine Constructor.commutes_textPair fun source flags component hmake => ?_
    unfold makeRegex at hmake
    split at hmake
    · cases hmake
      rfl
    · cases hmake
  · refine Constructor.commutes_optionalText fun text component hmake => ?_
    cases hmake
    rfl
  · exact Constructor.commutes_plain fun _ => rfl
  · exact Constructor.commutes_plain fun _ => rfl
  · exact Constructor.commutes_node

theorem create_rename (f : Handle → Handle) (clock : Nat) (catalog : NodeCatalog) (kind : String)
    (arguments : List Value) :
    builtin.create clock (catalog.rename f) kind (arguments.map (Value.rename f)) =
      Creation.rename f <$> builtin.create clock catalog kind arguments := by
  unfold create
  cases hentry : builtin.get? kind with
  | none => rfl
  | some entry => exact (all_commutes_builtin kind entry hentry).make_rename f _ _ _ _

theorem covers_create {heap : Heap} {clock : Nat} {catalog : NodeCatalog} {kind : String}
    {arguments : List Value} {creation : Creation} (hcatalog : heap.Covers catalog.references)
    (hcreate : builtin.create clock catalog kind arguments = .ok creation) :
    heap.Covers creation.component.references := by
  unfold create at hcreate
  split at hcreate
  · rename_i entry hentry
    exact (all_commutes_builtin kind entry hentry).covers hcatalog hcreate
  · cases hcreate

end Registry

end BrightScript
