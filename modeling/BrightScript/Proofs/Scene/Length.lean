import BrightScript.Proofs.Method.Keeping

namespace BrightScript

open Procedure

variable {heap : Heap} {call : Call}

/-- The texts of a kind, which are its name, the names of its fields and their first values, are not
too long. -/
def NodeDefinition.Fits (definition : NodeDefinition) : Prop :=
  Text.Fits definition.name ∧ ∀ field ∈ definition.fields, Text.Fits field.1 ∧ field.2.Fits

instance : DecidablePred NodeDefinition.Fits := fun definition =>
  inferInstanceAs (Decidable (Text.Fits definition.name ∧
    ∀ field ∈ definition.fields, Text.Fits field.1 ∧ field.2.Fits))

/-- The texts of the declared kinds are not too long. -/
def NodeCatalog.Fits (catalog : NodeCatalog) : Prop :=
  ∀ definition ∈ catalog.definitions.values, definition.Fits

theorem NodeKind.fits_of_mem_builtins {kind : NodeDefinition} (hkind : kind ∈ builtins) :
    kind.Fits := by
  have hall : ∀ kind ∈ builtins, kind.Fits := by decide
  exact hall kind hkind

namespace NodeCatalog

variable {catalog : NodeCatalog}

theorem Fits.definition (hcatalog : catalog.Fits) {name : String} {definition : NodeDefinition}
    (hget : catalog.get? name = some definition) : definition.Fits :=
  hcatalog definition (Dictionary.mem_values_of_get? hget)

theorem Fits.declare (hcatalog : catalog.Fits) {definition : NodeDefinition}
    (hdefinition : definition.Fits) : (catalog.declare definition).Fits := by
  intro other hother
  rcases Dictionary.mem_values_insert hother with rfl | hold
  · exact hdefinition
  · exact hcatalog other hold

theorem Fits.complete (hcatalog : catalog.Fits) {kind : NodeDefinition} (hkind : kind.Fits)
    {name : String} {base : NodeDraft} (hbase : base.node.fields.Fits) :
    ((base.specialize kind.name kind.fields).overlay
      (((catalog.get? name).map NodeDefinition.fields).getD [])).node.Fits := by
  refine ⟨hkind.1, (hbase.insertMany hkind.2).insertMany ?_⟩
  cases hget : catalog.get? name with
  | none => exact List.forall_mem_nil _
  | some definition => exact (hcatalog.definition hget).2

theorem Fits.draftWithin (hcatalog : catalog.Fits) {limit : Nat} {name : String}
    {draft : NodeDraft} (hdraft : catalog.draftWithin limit name = .ok draft) :
    draft.node.Fits := by
  induction limit generalizing name draft with
  | zero => cases hdraft
  | succ limit ih =>
      unfold NodeCatalog.draftWithin at hdraft
      dsimp only at hdraft
      split at hdraft
      · next kind hkind =>
          have hkindFits := NodeKind.fits_of_mem_builtins (List.mem_of_find?_eq_some hkind)
          split at hdraft
          · obtain ⟨base, hbase, hdraft⟩ := bind_eq_ok_iff.mp hdraft
            cases hdraft
            exact hcatalog.complete hkindFits (ih hbase).2
          · obtain ⟨base, hbase, hdraft⟩ := bind_eq_ok_iff.mp hdraft
            cases hbase
            cases hdraft
            exact hcatalog.complete hkindFits Dictionary.fits_empty
      · next definition _ hget =>
          obtain ⟨base, hbase, hdraft⟩ := bind_eq_ok_iff.mp hdraft
          cases hdraft
          obtain ⟨hname, hfields⟩ := hcatalog.definition hget
          exact ⟨hname, (ih hbase).2.insertMany hfields⟩
      · cases hdraft

end NodeCatalog

namespace Node

variable {node : Node}

theorem Fits.setField (hnode : node.Fits) {name : String} {value : Value} (hname : Text.Fits name)
    (hvalue : value.Fits) : (node.setField name value).Fits :=
  ⟨hnode.1, hnode.2.insert hname hvalue⟩

theorem Fits.setFields (hnode : node.Fits) (adding : Bool) {fields : List (String × Value)}
    (hfields : ∀ field ∈ fields, Text.Fits field.1 ∧ field.2.Fits) :
    (node.setFields adding fields).Fits := by
  unfold Node.setFields
  induction fields generalizing node with
  | nil => exact hnode
  | cons field rest ih =>
      obtain ⟨hfield, hrest⟩ := List.forall_mem_cons.mp hfields
      rw [List.foldl_cons]
      refine ih ?_ hrest
      split
      · exact hnode.setField hfield.1 hfield.2
      · exact hnode

theorem fits_initialValue (type : String) : (initialValue type).Fits := by
  unfold initialValue
  split <;> first | exact trivial | decide

theorem all_modifyNode (hheap : heap.All Component.Fits) (handle : Handle) {change : Node → Node}
    (hsubtype : ∀ node, (change node).subtype = node.subtype)
    (hfields : ∀ node, (change node).fields = node.fields) :
    (heap.modifyNode handle change).All Component.Fits := by
  refine hheap.modifyNode handle fun node hnode => ?_
  rw [Component.fits_node, Fits, hsubtype, hfields]
  exact Component.fits_node.mp hnode

theorem fits_adopt (hheap : heap.All Component.Fits) (hnode : node.Fits) (this child : Handle)
    (parent : Option Handle) :
    (adopt heap this node child parent).1.Fits ∧
      (adopt heap this node child parent).2.All Component.Fits := by
  unfold adopt
  refine ⟨?_, all_modifyNode ?_ child (fun _ => rfl) fun _ => rfl⟩
  · dsimp only
    split <;> exact hnode
  · split
    · split
      · exact hheap
      · exact all_modifyNode hheap _ (fun _ => rfl) fun _ => rfl
    · exact hheap

theorem keeps_append (this child : Handle) {post : Value → Prop}
    (hpost : ∀ done, post (.boolean done)) :
    Keeps (Sized Node.Fits) post (Node.append this child) := by
  unfold Node.append
  refine .bind keeps_heap fun heap _ => .bind keeps_own fun node _ => ?_
  split
  · exact .pure (hpost _)
  split
  · exact .pure (hpost _)
  refine .bind keeps_heap fun heap _ => ?_
  split
  · next childNode _ =>
      refine keeps_carryOut fun node heap hnode hheap => ?_
      obtain ⟨hadopted, hafter⟩ := fits_adopt hheap hnode this child childNode.parent
      exact ⟨hadopted, hafter, hpost _⟩
  · exact .throw _
  · exact .pure (hpost _)

theorem fits_removeChild (hheap : heap.All Component.Fits) (hnode : node.Fits) (child : Handle) :
    (node.removeChild heap child).state.Fits ∧
      (node.removeChild heap child).heap.All Component.Fits ∧
      (node.removeChild heap child).value.Fits := by
  unfold removeChild
  split
  · exact ⟨hnode, all_modifyNode hheap _ (fun _ => rfl) fun _ => rfl, trivial⟩
  · exact ⟨hnode, hheap, trivial⟩

end Node

namespace NodeMethod

theorem keeps_create {catalog : NodeCatalog} (hcatalog : catalog.Fits) (this : Handle)
    (kind : String) {post : Value → Prop} (hpost : ∀ value : Value, value.Fits → post value) :
    Keeps (Sized Node.Fits) post (create catalog this kind) := by
  unfold create
  split
  · exact .pure (hpost _ trivial)
  · next draft hdraft =>
      refine .bind (keeps_warn _) fun _ _ => ?_
      have hnew := Component.fits_node.mpr (hcatalog.draftWithin hdraft)
      refine .bind (keeps_alloc hnew) fun child _ => ?_
      have happend : Keeps (Sized Node.Fits) (fun _ => True) (Node.append this child) :=
        Node.keeps_append this child fun _ => trivial
      exact happend.bind fun _ _ => .pure (hpost _ trivial)

theorem keeps_perform {catalog : NodeCatalog} (hcatalog : catalog.Fits) (this : Handle)
    (hcall : call.Fits) :
    Keeps (Sized Node.Fits) call.Gives (perform catalog this call) := by
  unfold perform
  split
  case h_1 => exact .check fun _ _ => .bind keeps_own fun _ hnode => .pure fun _ => hnode.1
  case h_2 | h_5 =>
    refine .check fun _ _ => .check fun _ _ => ?_
    exact .bind keeps_own fun _ _ => .pure fun _ => trivial
  case h_3 =>
    refine .check fun _ _ => .check fun name _ => ?_
    exact .bind keeps_own fun node hnode => .pure fun _ => hnode.2.get? name
  case h_4 =>
    refine .check fun _ _ => .check fun name hname => .bind keeps_own fun _ _ => ?_
    split
    · exact .pure fun _ => trivial
    · refine .check fun value hvalue => ?_
      refine .bind (keeps_modifyOwn fun node hnode => ?_) fun _ _ => .pure fun _ => trivial
      exact hnode.setField (hcall.text hname) (hcall.value hvalue)
  case h_6 =>
    refine .check fun _ _ => .check fun name hname => .bind keeps_own fun _ _ => ?_
    split
    · exact .pure fun _ => trivial
    · refine .check fun type _ => ?_
      refine .bind (keeps_modifyOwn fun node hnode => ?_) fun _ _ => .pure fun _ => trivial
      exact hnode.setField (hcall.text hname) (Node.fits_initialValue type)
  case h_7 =>
    refine .check fun _ _ => .check fun name _ => .bind keeps_own fun _ _ => ?_
    refine .bind (keeps_modifyOwn fun node hnode => ?_) fun _ _ => .pure fun _ => trivial
    exact ⟨hnode.1, hnode.2.erase name⟩
  case h_8 =>
    refine .check fun _ _ => .bind keeps_own fun node hnode => ?_
    exact keeps_make (Component.fits_table.mpr (Dictionary.fits_ofList hnode.2)) fun _ _ => trivial
  case h_9 | h_10 =>
    refine .check fun _ _ => .check fun source _ => .bind keeps_heap fun heap hheap => ?_
    split
    · next fields hget =>
        have hfields := Component.fits_table.mp (Heap.all_iff.mp hheap source _ hget)
        refine .bind (keeps_modifyOwn fun node hnode => ?_) fun _ _ => .pure fun _ => trivial
        exact hnode.setFields _ hfields
    · exact .throw _
  case h_11 =>
    refine .check fun _ _ => .check fun child _ => .adaptExcept _ ?_
    exact Node.keeps_append this child fun _ _ => trivial
  case h_12 =>
    refine .check fun _ _ => .check fun kind _ => .adaptExcept _ ?_
    exact keeps_create hcatalog this kind fun _ hvalue _ => hvalue
  case h_13 =>
    refine .check fun _ _ => .check fun child _ => keeps_carryOut fun node heap hnode hheap => ?_
    obtain ⟨hleft, hafter, hvalue⟩ := Node.fits_removeChild hheap hnode child
    exact ⟨hleft, hafter, fun _ => hvalue⟩
  case h_14 => exact .check fun _ _ => .bind keeps_own fun _ _ => .pure fun _ => trivial
  case h_15 =>
    refine .check fun _ _ => .check fun index _ => .bind keeps_own fun _ _ => .pure fun _ => ?_
    exact Value.fits_ofHandle? _
  case h_16 =>
    refine .check fun _ _ => .check fun limit _ => .check fun start _ => ?_
    refine .bind keeps_own fun node _ => keeps_make (Component.fits_array.mpr ?_) fun _ _ => trivial
    exact List.forall_mem_map.mpr fun _ _ => trivial
  case h_17 =>
    exact .check fun _ _ => .bind keeps_own fun _ _ => .pure fun _ => Value.fits_ofHandle? _
  case h_18 =>
    refine .check fun _ _ => .check fun id _ => ?_
    refine .bind keeps_heap fun heap _ => .bind keeps_own fun node _ => .pure fun _ => ?_
    exact Value.fits_ofHandle? _
  case h_19 => exact .throw _

end NodeMethod

end BrightScript
