import BrightScript.Component.Registry
import BrightScript.Proofs.Method.Growth

namespace BrightScript

theorem NodeCatalog.links_draftWithin {catalog : NodeCatalog} {limit : Nat} {name : String}
    {draft : NodeDraft} (hdraft : catalog.draftWithin limit name = .ok draft) :
    draft.node.links = .none := by
  induction limit generalizing name draft with
  | zero => cases hdraft
  | succ limit ih =>
      unfold draftWithin at hdraft
      dsimp only at hdraft
      split at hdraft
      · split at hdraft
        · obtain ⟨base, hbase, hdraft⟩ := bind_eq_ok_iff.mp hdraft
          cases hdraft
          change base.node.links = .none
          exact ih hbase
        · obtain ⟨base, hbase, hdraft⟩ := bind_eq_ok_iff.mp hdraft
          cases hbase
          cases hdraft
          rfl
      · obtain ⟨base, hbase, hdraft⟩ := bind_eq_ok_iff.mp hdraft
        cases hdraft
        change base.node.links = .none
        exact ih hbase
      · cases hdraft

theorem NodeCatalog.links_draft {catalog : NodeCatalog} {name : String} {draft : NodeDraft}
    (hdraft : catalog.draft name = .ok draft) : draft.node.links = .none :=
  links_draftWithin hdraft

/-- A component that is not a node, or a node without relatives. -/
def Component.IsUnlinked (component : Component) : Prop :=
  component.links? = none ∨ component.links? = some .none

/-- Whatever a constructor makes is not linked to anything. -/
def Constructor.MakesUnlinked (constructor : Constructor) : Prop :=
  ∀ (kind : String) (clock : Nat) (catalog : NodeCatalog) (arguments : List Value)
    (creation : Creation), constructor.make kind clock catalog arguments = .ok creation →
    creation.component.IsUnlinked

namespace Constructor

theorem eq_ok_of_wrap {kind : String} {made : Except String Component} {creation : Creation}
    (hwrap : wrap kind made = .ok creation) : made = .ok creation.component := by
  unfold wrap at hwrap
  split at hwrap
  · cases hwrap
    rfl
  · cases hwrap

theorem makesUnlinked_plain {make : Nat → Component} (hmake : ∀ clock, (make clock).links? = none) :
    (plain make).MakesUnlinked := by
  intro kind clock catalog arguments creation hcreation
  obtain ⟨_, -, hcreation⟩ := bind_eq_ok_iff.mp hcreation
  cases hcreation
  exact .inl (hmake clock)

theorem makesUnlinked_optionalText {make : Option String → Except String Component}
    (hmake : ∀ text component, make text = .ok component → component.links? = none) :
    (optionalText make).MakesUnlinked := by
  intro kind clock catalog arguments creation hcreation
  obtain ⟨_, -, hcreation⟩ := bind_eq_ok_iff.mp hcreation
  dsimp only at hcreation
  split at hcreation
  · obtain ⟨text, -, hcreation⟩ := bind_eq_ok_iff.mp hcreation
    exact .inl (hmake text _ (eq_ok_of_wrap hcreation))
  · obtain ⟨text, -, hcreation⟩ := bind_eq_ok_iff.mp hcreation
    exact .inl (hmake text _ (eq_ok_of_wrap hcreation))

theorem makesUnlinked_textPair {make : String → String → Except String Component}
    (hmake : ∀ first second component, make first second = .ok component →
      component.links? = none) : (textPair make).MakesUnlinked := by
  intro kind clock catalog arguments creation hcreation
  obtain ⟨_, -, hcreation⟩ := bind_eq_ok_iff.mp hcreation
  obtain ⟨first, -, hcreation⟩ := bind_eq_ok_iff.mp hcreation
  obtain ⟨second, -, hcreation⟩ := bind_eq_ok_iff.mp hcreation
  exact .inl (hmake first second _ (eq_ok_of_wrap hcreation))

theorem makesUnlinked_custom {make : List Value → Except CreationError Component}
    (hmake : ∀ arguments component, make arguments = .ok component → component.links? = none) :
    (custom make).MakesUnlinked := by
  intro kind clock catalog arguments creation hcreation
  obtain ⟨component, hcomponent, hcreation⟩ := bind_eq_ok_iff.mp hcreation
  cases hcreation
  exact .inl (hmake arguments component hcomponent)

theorem makesUnlinked_node : node.MakesUnlinked := by
  intro kind clock catalog arguments creation hcreation
  obtain ⟨_, -, hcreation⟩ := bind_eq_ok_iff.mp hcreation
  obtain ⟨name, -, hcreation⟩ := bind_eq_ok_iff.mp hcreation
  unfold makeNode at hcreation
  split at hcreation
  · rename_i draft hdraft
    cases hcreation
    exact .inr (congrArg some (catalog.links_draft hdraft))
  · cases hcreation

end Constructor

namespace Registry

/-- The constructors of all kinds have a property. -/
def All (property : Constructor → Prop) (registry : Registry) : Prop :=
  ∀ (kind : String) (entry : KindEntry), registry.get? kind = some entry →
    property entry.constructor

theorem All.register {property : Constructor → Prop} {registry : Registry}
    (hregistry : registry.All property) (name : String) {constructor : Constructor}
    (hconstructor : property constructor) : (registry.register name constructor).All property := by
  intro kind entry hget
  rw [Registry.get?, Registry.register, Dictionary.get?_insert] at hget
  split at hget
  · cases hget
    exact hconstructor
  · exact hregistry kind entry hget

theorem all_empty (property : Constructor → Prop) : empty.All property := by
  intro kind entry hget
  cases hget

theorem makeArray_eq {arguments : List Value} {component : Component}
    (hmake : makeArray arguments = .ok component) : component = .array #[] := by
  unfold makeArray at hmake
  split at hmake
  · cases hmake
    rfl
  · cases hmake
    rfl
  · cases hmake

/-- No built-in kind makes components that are linked to others. -/
theorem all_makesUnlinked_builtin : builtin.All Constructor.MakesUnlinked := by
  unfold builtin
  refine .register (.register (.register (.register (.register (.register (.register (.register
    (.register (all_empty _) _ ?_) _ ?_) _ ?_) _ ?_) _ ?_) _ ?_) _ ?_) _ ?_) _ ?_
  · refine Constructor.makesUnlinked_custom fun arguments component hmake => ?_
    obtain rfl := makeArray_eq hmake
    rfl
  · exact Constructor.makesUnlinked_plain fun _ => rfl
  · exact Constructor.makesUnlinked_plain fun _ => rfl
  · exact Constructor.makesUnlinked_plain fun _ => rfl
  · refine Constructor.makesUnlinked_textPair fun source flags component hmake => ?_
    unfold makeRegex at hmake
    split at hmake
    · cases hmake
      rfl
    · cases hmake
  · refine Constructor.makesUnlinked_optionalText fun text component hmake => ?_
    cases hmake
    rfl
  · exact Constructor.makesUnlinked_plain fun _ => rfl
  · exact Constructor.makesUnlinked_plain fun _ => rfl
  · exact Constructor.makesUnlinked_node

theorem get?_register (registry : Registry) (name kind : String) (constructor : Constructor) :
    (registry.register name constructor).get? kind =
      if Name.key kind = Name.key name then some ⟨name, constructor⟩ else registry.get? kind :=
  Dictionary.get?_insert registry.kinds name kind ⟨name, constructor⟩

theorem create_text (clock : Nat) (catalog : NodeCatalog) (text : String) :
    builtin.create clock catalog "roString" [.text text] = .ok ⟨.text text, []⟩ := by
  have hnode : Name.key "roString" ≠ Name.key "roSGNode" := by decide +kernel
  have hlist : Name.key "roString" ≠ Name.key "roXMLList" := by decide +kernel
  have helement : Name.key "roString" ≠ Name.key "roXMLElement" := by decide +kernel
  rw [create, builtin, get?_register, if_neg hnode, get?_register, if_neg hlist, get?_register,
    if_neg helement, get?_register, if_pos rfl]
  rfl

end Registry

end BrightScript
