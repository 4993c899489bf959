import BrightScript.Proofs.Renaming.Call
import BrightScript.Proofs.Renaming.Creation
import BrightScript.Proofs.Scene.Walk

namespace BrightScript

namespace Heap

variable {π : Equiv.Perm Handle} {heap mirror : Heap}

@[simp] theorem covers_node {node : Node} :
    heap.Covers (Component.node node).references ↔
      (∀ value ∈ node.fields.values, heap.Holds value) ∧ heap.Covers node.children ∧
        heap.Covers node.parent.toList := by
  simp [Component.references]

namespace Mirrors

theorem isAbove_eq (hheap : Mirrors π heap mirror) (target : Handle) (path : List Handle)
    (start : Option Handle) (hstart : heap.Covers start.toList) :
    mirror.isAbove (π target) (path.map π) (start.map π) = heap.isAbove target path start := by
  induction path, start using isAbove.induct heap target with
  | case1 path => simp [isAbove]
  | case2 path => simp [isAbove_some]
  | case3 path current hdiffer hfresh node hget _ ih =>
      have hparent : heap.Covers node.parent.toList := (covers_node.mp (hheap.covers hget)).2.2
      simp only [Option.map_some, isAbove_some, EmbeddingLike.apply_eq_iff_eq, contains_map_perm,
        hheap.get?_of_get? hget, hget, Component.rename]
      rw [← ih hparent]
      rfl
  | case4 path current hdiffer hfresh hnone =>
      have hcurrent : heap.isValid current = true := hstart current (by simp)
      simp only [Option.map_some, isAbove_some, EmbeddingLike.apply_eq_iff_eq, contains_map_perm,
        hheap.get?_eq hcurrent]
      cases hget : heap.get? current with
      | none => rfl
      | some component =>
          cases component with
          | node node => exact absurd hget (hnone node)
          | _ => rfl
  | case5 path current hdiffer hmet =>
      rw [Bool.not_eq_false] at hmet
      simp only [Option.map_some, isAbove_some, EmbeddingLike.apply_eq_iff_eq, contains_map_perm,
        hmet, if_true]

theorem findNode?_eq_map (hheap : Mirrors π heap mirror) (id : String)
    (path children : List Handle) (hchildren : heap.Covers children) :
    mirror.findNode? id (path.map π) (children.map π) =
      (heap.findNode? id path children).map π := by
  induction path, children using findNode?.induct heap with
  | case1 path children ih =>
      rw [findNode?_eq, findNode?_eq heap, List.findSome?_map, List.map_findSome?]
      refine findSome?_congr fun child hchild => ?_
      simp only [Function.comp_apply, contains_map_perm, hheap.get?_eq (hchildren child hchild)]
      cases hget : heap.get? child with
      | none => rfl
      | some component =>
          cases component with
          | node node =>
              have hbelow : heap.Covers node.children := (covers_node.mp (hheap.covers hget)).2.1
              simp only [Option.map_some, Component.rename, Node.rename, Dictionary.get?_mapValues,
                Option.bind_map, Function.comp_def, Value.text?_rename]
              split
              · rfl
              · split
                · rfl
                · rename_i hfresh
                  exact ih child node hget (by simpa using hfresh) hbelow
          | _ => rfl

end Mirrors

theorem isValid_of_findNode? (heap : Heap) (id : String) (path children : List Handle)
    {handle : Handle} (hfound : heap.findNode? id path children = some handle) :
    heap.isValid handle = true := by
  induction path, children using findNode?.induct heap with
  | case1 path children ih =>
      rw [findNode?_eq] at hfound
      obtain ⟨child, -, hchild⟩ := List.exists_of_findSome?_eq_some hfound
      split at hchild
      · rename_i node hget
        split at hchild
        · cases hchild
          exact isValid_of_get? hget
        · split at hchild
          · cases hchild
          · rename_i hfresh
            exact ih child node hget (by simpa using hfresh) hchild
      · cases hchild

theorem Mirrors.modifyNode (hheap : Mirrors π heap mirror) {handle : Handle}
    (hvalid : heap.isValid handle = true) (change change' : Node → Node)
    (hchange : ∀ node, change' (node.rename π) = (change node).rename π)
    (hcovers : ∀ node, heap.get? handle = some (.node node) →
      heap.Covers (Component.node (change node)).references) :
    Mirrors π (heap.modifyNode handle change) (mirror.modifyNode (π handle) change') := by
  unfold Heap.modifyNode
  rw [hheap.get?_eq hvalid]
  cases hget : heap.get? handle with
  | none => exact hheap
  | some component =>
      cases component with
      | node node =>
          simp only [Option.map_some, Component.rename, hchange]
          exact hheap.set handle (hcovers node hget)
      | _ => exact hheap

theorem later_modifyNode (π : Equiv.Perm Handle) (heap : Heap) (handle : Handle)
    (change : Node → Node) : Later π heap π (heap.modifyNode handle change) := by
  unfold Heap.modifyNode
  split
  · exact Mirrors.later_set π heap handle _
  · exact .refl π heap

end Heap

theorem Component.node_rename (f : Handle → Handle) (node : Node) :
    Component.node (node.rename f) = (Component.node node).rename f := rfl

namespace Node

variable {π : Equiv.Perm Handle} {heap mirror : Heap} {this child : Handle} {node : Node}

theorem filter_ne_map (π : Equiv.Perm Handle) (handles : List Handle) (child : Handle) :
    (handles.map π).filter (· != π child) = (handles.filter (· != child)).map π := by
  rw [List.filter_map]
  congr 1
  refine List.filter_congr fun handle _ => ?_
  simp [bne, BEq.beq]

theorem withoutChild_rename (π : Equiv.Perm Handle) (node : Node) (child : Handle) :
    (node.rename π).withoutChild (π child) = (node.withoutChild child).rename π := by
  simp only [withoutChild, rename, filter_ne_map]

theorem covers_withoutChild (hnode : heap.Covers (Component.node node).references)
    (child : Handle) : heap.Covers (Component.node (node.withoutChild child)).references := by
  obtain ⟨hfields, hchildren, hparent⟩ := Heap.covers_node.mp hnode
  exact Heap.covers_node.mpr
    ⟨hfields, fun handle hhandle => hchildren handle (List.mem_filter.mp hhandle).1, hparent⟩

theorem get?_fields_rename (f : Handle → Handle) (node : Node) (name : String) :
    (node.rename f).fields.get? name = (node.fields.get? name).map (Value.rename f) :=
  Dictionary.get?_mapValues _ node.fields name

theorem contains_fields_rename (f : Handle → Handle) (node : Node) (name : String) :
    (node.rename f).fields.contains name = node.fields.contains name :=
  Dictionary.contains_mapValues _ node.fields name

theorem setField_rename (f : Handle → Handle) (node : Node) (name : String) (value : Value) :
    (node.rename f).setField name (value.rename f) = (node.setField name value).rename f := by
  simp only [setField, rename, Dictionary.mapValues_insert]

theorem setFields_rename (f : Handle → Handle) (node : Node) (adding : Bool)
    (fields : List (String × Value)) :
    (node.rename f).setFields adding (renameFields f fields) =
      (node.setFields adding fields).rename f := by
  unfold setFields
  induction fields generalizing node with
  | nil => rfl
  | cons field fields ih =>
      simp only [renameFields, List.map_cons, List.foldl_cons, contains_fields_rename,
        setField_rename]
      split
      · exact ih _
      · exact ih _

theorem initialValue_rename (f : Handle → Handle) (type : String) :
    (initialValue type).rename f = initialValue type := by
  unfold initialValue
  split <;> rfl

theorem holds_initialValue (heap : Heap) (type : String) : heap.Holds (initialValue type) := by
  intro handle hhandle
  unfold initialValue at hhandle
  split at hhandle <;> cases hhandle

theorem covers_setField (hnode : heap.Covers (Component.node node).references) (name : String)
    {value : Value} (hvalue : heap.Holds value) :
    heap.Covers (Component.node (node.setField name value)).references := by
  obtain ⟨hfields, hrelatives⟩ := Heap.covers_node.mp hnode
  refine Heap.covers_node.mpr ⟨fun other hother => ?_, hrelatives⟩
  rcases Dictionary.mem_values_insert hother with rfl | hother
  · exact hvalue
  · exact hfields other hother

theorem covers_setFields (hnode : heap.Covers (Component.node node).references) (adding : Bool)
    {fields : List (String × Value)} (hfields : ∀ field ∈ fields, heap.Holds field.2) :
    heap.Covers (Component.node (node.setFields adding fields)).references := by
  unfold setFields
  induction fields generalizing node with
  | nil => exact hnode
  | cons field fields ih =>
      rw [List.foldl_cons]
      have hrest : ∀ field ∈ fields, heap.Holds field.2 :=
        fun other hother => hfields other (List.mem_cons_of_mem _ hother)
      split
      · exact ih (covers_setField hnode field.1 (hfields field List.mem_cons_self)) hrest
      · exact ih hnode hrest

theorem covers_erase (hnode : heap.Covers (Component.node node).references) (name : String) :
    heap.Covers (Component.node { node with fields := node.fields.erase name }).references := by
  obtain ⟨hfields, hrelatives⟩ := Heap.covers_node.mp hnode
  exact Heap.covers_node.mpr
    ⟨fun value hvalue => hfields value (Dictionary.mem_values_erase hvalue), hrelatives⟩

theorem mirrors_leave (hheap : heap.Mirrors π mirror) (this child : Handle)
    (parent : Option Handle) :
    let left := match parent with
      | some other =>
        if other = this then heap else heap.modifyNode other fun node => node.withoutChild child
      | none => heap
    let left' := match parent.map π with
      | some other =>
        if other = π this then mirror
        else mirror.modifyNode other fun node => node.withoutChild (π child)
      | none => mirror
    heap.Covers parent.toList → heap.Later π π left ∧ left.Mirrors π left' := by
  cases parent with
  | none => exact fun _ => ⟨.refl π heap, hheap⟩
  | some other =>
      intro left left' hparent
      dsimp only [left, left']
      have hother : heap.isValid other = true := hparent other (by simp)
      simp only [Option.map_some, EmbeddingLike.apply_eq_iff_eq]
      split
      · exact ⟨.refl π heap, hheap⟩
      · refine ⟨Heap.later_modifyNode π heap other _, hheap.modifyNode hother _ _ ?_ ?_⟩
        · exact fun node => withoutChild_rename π node child
        · exact fun node hget => covers_withoutChild (hheap.covers hget) child

theorem mirrors_adopt (hheap : heap.Mirrors π mirror) (hthis : heap.isValid this = true)
    (hnode : heap.Covers (Component.node node).references) (hchild : heap.isValid child = true)
    {parent : Option Handle} (hparent : heap.Covers parent.toList) :
    let adopted := adopt heap this node child parent
    let adopted' := adopt mirror (π this) (node.rename π) (π child) (parent.map π)
    heap.Later π π adopted.2 ∧ adopted.2.Mirrors π adopted'.2 ∧ adopted'.1 = adopted.1.rename π ∧
      adopted.2.Covers (Component.node adopted.1).references := by
  obtain ⟨hlater, hleft⟩ := mirrors_leave hheap this child parent hparent
  have hmoved := hlater.trans (Heap.later_modifyNode π _ child fun node =>
    { node with parent := some this })
  refine ⟨hmoved, ?_, ?_, hmoved.covers ?_⟩
  · refine hleft.modifyNode (hlater.isValid hchild)
      (fun node => { node with parent := some this }) _ (fun node => rfl) fun node hget => ?_
    obtain ⟨hfields, hchildren, -⟩ := Heap.covers_node.mp (hleft.covers hget)
    refine Heap.covers_node.mpr ⟨hfields, hchildren, ?_⟩
    simpa [Heap.Covers] using hlater.isValid hthis
  · have hkept : (if parent.map π = some (π this) then (node.rename π).withoutChild (π child)
        else node.rename π) =
        (if parent = some this then node.withoutChild child else node).rename π := by
      rw [withoutChild_rename]
      cases parent with
      | none => rfl
      | some other =>
          simp only [Option.map_some, Option.some.injEq, EmbeddingLike.apply_eq_iff_eq]
          split <;> rfl
    unfold adopt
    dsimp only
    rw [hkept]
    simp [rename]
  · have hkept : heap.Covers (Component.node
        (if parent = some this then node.withoutChild child else node)).references := by
      split
      · exact covers_withoutChild hnode child
      · exact hnode
    obtain ⟨hfields, hchildren, hparent⟩ := Heap.covers_node.mp hkept
    refine Heap.covers_node.mpr ⟨hfields, Heap.covers_append.mpr ⟨hchildren, ?_⟩, hparent⟩
    simpa [Heap.Covers] using hchild

theorem agrees_appendChild (hheap : heap.Mirrors π mirror) (hthis : heap.isValid this = true)
    (hnode : heap.Covers (Component.node node).references) (hchild : heap.isValid child = true) :
    Agrees (fun _ => True) (Effect.MirrorsAfter .node π heap) (node.appendChild heap this child)
      ((node.rename π).appendChild mirror (π this) (π child)) := by
  have hrefused : Effect.MirrorsAfter .node π heap ⟨node, heap, .boolean false, []⟩
      ⟨node.rename π, mirror, .boolean false, []⟩ :=
    .quiet hheap (Component.node_rename π node) hnode rfl Heap.holds_boolean
  have habove : mirror.isAbove (π child) [] (node.rename π).parent =
      heap.isAbove child [] node.parent :=
    hheap.isAbove_eq child [] node.parent (Heap.covers_node.mp hnode).2.2
  unfold appendChild append
  simp only [Procedure.outcome_own, Procedure.outcome_heap, Procedure.outcome_ite, habove,
    EmbeddingLike.apply_eq_iff_eq, hheap.get?_eq hchild]
  split
  · exact .ok hrefused
  · split
    · exact .ok hrefused
    · cases hget : heap.get? child with
      | none => exact .ok hrefused
      | some component =>
          cases component with
          | node childNode =>
              have hparent := (Heap.covers_node.mp (hheap.covers hget)).2.2
              obtain ⟨hlater, hafter, hstate, hcovers⟩ :=
                mirrors_adopt hheap hthis hnode hchild hparent
              exact .ok ⟨π, hlater, hafter, congrArg Component.node hstate, hcovers, rfl,
                Heap.holds_boolean, rfl⟩
          | _ => exact .error trivial

theorem mirrors_removeChild (hheap : heap.Mirrors π mirror)
    (hnode : heap.Covers (Component.node node).references) (hchild : heap.isValid child = true) :
    Effect.MirrorsAfter .node π heap (node.removeChild heap child)
      ((node.rename π).removeChild mirror (π child)) := by
  have hcontains : (node.rename π).children.contains (π child) = node.children.contains child :=
    contains_map_perm π node.children child
  obtain ⟨hfields, hchildren, hparent⟩ := Heap.covers_node.mp hnode
  unfold removeChild
  rw [hcontains]
  split
  · have hlater := Heap.later_modifyNode π heap child fun node => { node with parent := none }
    refine ⟨π, hlater, ?_, ?_, hlater.covers ?_, rfl, Heap.holds_boolean, rfl⟩
    · refine hheap.modifyNode hchild _ _ (fun node => rfl) fun node hget => ?_
      obtain ⟨hfields, hchildren, -⟩ := Heap.covers_node.mp (hheap.covers hget)
      exact Heap.covers_node.mpr ⟨hfields, hchildren, Heap.covers_nil⟩
    · simp only [Component.rename, rename]
      rw [List.map_erase π.injective]
    · refine Heap.covers_node.mpr ⟨hfields, fun handle hhandle => ?_, hparent⟩
      exact hchildren handle (List.mem_of_mem_erase hhandle)
  · exact .quiet hheap (Component.node_rename π node) hnode rfl Heap.holds_boolean

end Node

open Procedure

namespace NodeMethod

variable {π : Equiv.Perm Handle} {heap mirror : Heap} {this : Handle} {node : Node}
  {catalog : NodeCatalog} {call : Call}

theorem agrees_createChild (hheap : heap.Mirrors π mirror) (hthis : heap.isValid this = true)
    (hnode : heap.Covers (Component.node node).references)
    (hcatalog : heap.Covers catalog.references) (kind : String) :
    Agrees (fun _ => True) (Effect.MirrorsAfter .node π heap)
      (createChild heap catalog this node kind)
      (createChild mirror (catalog.rename π) (π this) (node.rename π) kind) := by
  have hdrafts := NodeCatalog.draft_rename π catalog kind
  cases hdraft : catalog.draft kind with
  | error e =>
      rw [hdraft] at hdrafts
      rw [createChild_of_error hdraft, createChild_of_error hdrafts]
      exact .ok (.quiet hheap (Component.node_rename π node) hnode rfl Heap.holds_invalid)
  | ok draft =>
      rw [hdraft] at hdrafts
      rw [createChild_of_draft hdraft rfl, createChild_of_draft hdrafts rfl]
      have hnew := NodeCatalog.covers_draft hcatalog hdraft
      obtain ⟨σ, hlater, hafter, hhandle⟩ := hheap.alloc hnew
      have hself := hheap.wellFormed.isValid_alloc_self (.node draft.node)
      have hrenamed : node.rename σ = node.rename π :=
        Component.node.inj (hlater.rename_component hnode)
      have happend := Node.agrees_appendChild hafter (hlater.isValid hthis)
        (hlater.covers hnode) hself
      rw [hrenamed, hhandle, hlater.agrees hthis] at happend
      refine happend.map fun effect effect' heffect => ?_
      obtain ⟨τ, hlast, hend⟩ := heffect
      refine ⟨τ, hlater.trans hlast, hend.heap, hend.state_eq, hend.covers, ?_, ?_, ?_⟩
      · refine congrArg Value.object ?_
        exact hhandle.symm.trans (hlast.agrees hself).symm
      · exact Heap.holds_object.mpr (hlast.isValid hself)
      · exact congrArg (draft.warnings ++ ·) hend.warnings_eq

theorem covers_selectChildren (hchildren : heap.Covers node.children) (limit : Option Nat)
    (start : Nat) : heap.Covers (selectChildren node limit start) := by
  refine Heap.covers_subset ?_ hchildren
  unfold selectChildren
  cases limit with
  | none => exact List.drop_subset _ _
  | some limit => exact List.Subset.trans (List.take_subset _ _) (List.drop_subset _ _)

theorem selectChildren_rename (f : Handle → Handle) (limit : Option Nat) (start : Nat) :
    selectChildren (node.rename f) limit start = (selectChildren node limit start).map f := by
  unfold selectChildren
  cases limit <;> simp [Node.rename]

theorem mirrors_setFields (hheap : heap.Mirrors π mirror)
    (hnode : heap.Covers (Component.node node).references) (adding : Bool) {source : Handle}
    {table : NameMap Value} (hsource : heap.get? source = some (.table table)) :
    Effect.MirrorsAfter .node π heap
      ⟨node.setFields adding table.entries, heap, .boolean true, []⟩
      ⟨(node.rename π).setFields adding (table.mapValues (Value.rename π)).entries, mirror,
        .boolean true, []⟩ := by
  refine .quiet hheap ?_ ?_ rfl Heap.holds_boolean
  · exact congrArg Component.node (Node.setFields_rename π node adding table.entries)
  · refine Node.covers_setFields hnode adding fun field hfield => ?_
    exact Heap.covers_handles.mp (hheap.covers hsource) field.2 (List.mem_map_of_mem hfield)

theorem agrees_call (hheap : heap.Mirrors π mirror) (hthis : heap.isValid this = true)
    (hnode : heap.Covers (Component.node node).references)
    (hcatalog : heap.Covers catalog.references)
    (hcall : ∀ value ∈ call.arguments, heap.Holds value) :
    Agrees MethodError.Ordinary (Effect.MirrorsAfter .node π heap)
      (NodeMethod.call heap catalog this node call)
      (NodeMethod.call mirror (catalog.rename π) (π this) (node.rename π) (call.rename π)) := by
  have hstate := Component.node_rename π node
  obtain ⟨hfields, hchildren, hparent⟩ := Heap.covers_node.mp hnode
  have hfail : ∀ e : String, True → MethodError.Ordinary (call.fail e) := by
    simp [MethodError.Ordinary, Call.fail]
  unfold NodeMethod.call perform
  rw [Call.method_rename]
  split <;> simp only [outcome_check, outcome_own, outcome_heap, outcome_modifyOwn,
    outcome_ite, outcome_adaptExcept, outcome_throw, Node.contains_fields_rename]
  case h_1 => exact .expect (.ok (.quiet hheap hstate hnode rfl Heap.holds_text))
  case h_2 =>
    exact .expect (.text fun kind => .ok (.quiet hheap hstate hnode rfl Heap.holds_boolean))
  case h_3 =>
    refine .expect (.text fun name => .ok (.quiet hheap hstate hnode ?_ ?_))
    · rw [Node.get?_fields_rename, Value.getD_map_rename]
    · exact Heap.holds_getD fun value hvalue => hfields value (Dictionary.mem_values_of_get? hvalue)
  case h_4 =>
    refine .expect (.text fun name => ?_)
    split
    · exact .ok (.quiet hheap hstate hnode rfl Heap.holds_boolean)
    · refine .value hcall fun value hvalue => .ok (.quiet hheap ?_ ?_ rfl Heap.holds_boolean)
      · exact congrArg Component.node (Node.setField_rename π node name value)
      · exact Node.covers_setField hnode name hvalue
  case h_5 =>
    refine .expect (.text fun name => .ok (.quiet hheap hstate hnode ?_ Heap.holds_boolean))
    rw [Value.rename_boolean]
  case h_6 =>
    refine .expectBetween (.text fun name => ?_)
    split
    · exact .ok (.quiet hheap hstate hnode rfl Heap.holds_boolean)
    · refine .text fun type => .ok (.quiet hheap ?_ ?_ rfl Heap.holds_boolean)
      · have hset := Node.setField_rename π node name (Node.initialValue type)
        rw [Node.initialValue_rename] at hset
        exact congrArg Component.node hset
      · exact Node.covers_setField hnode name (Node.holds_initialValue heap type)
  case h_7 =>
    refine .expect (.text fun name => .ok (.quiet hheap ?_ ?_ rfl Heap.holds_boolean))
    · simp [Component.rename, Node.rename]
    · exact Node.covers_erase hnode name
  case h_8 =>
    refine .expect (.ok (.made hheap hstate hnode ?_ ?_))
    · exact congrArg Component.table (Dictionary.ofList_map (Value.rename π) node.fields.entries)
    · exact Heap.covers_handles.mpr fun value hvalue =>
        hfields value (Dictionary.mem_values_ofList hvalue)
  case h_9 | h_10 =>
    refine .expect (.object hcall fun source hsource => ?_)
    rw [hheap.get?_eq hsource]
    cases hfound : heap.get? source with
    | none => exact .fail
    | some component =>
        cases component with
        | table table => exact .ok (mirrors_setFields hheap hnode _ hfound)
        | _ => exact .fail
  case h_11 =>
    exact .expect (.object hcall fun child hchild =>
      (Node.agrees_appendChild hheap hthis hnode hchild).mapError hfail)
  case h_12 =>
    exact .expect (.text fun kind =>
      (agrees_createChild hheap hthis hnode hcatalog kind).mapError hfail)
  case h_13 =>
    exact .expect (.object hcall fun child hchild =>
      .ok (Node.mirrors_removeChild hheap hnode hchild))
  case h_14 =>
    refine .expect (.ok (.quiet hheap hstate hnode ?_ Heap.holds_ofNat))
    simp [Node.rename]
  case h_15 =>
    refine .expect (.index fun index => .ok (.quiet hheap hstate hnode ?_ ?_))
    · rw [Value.rename_ofHandle?, Option.map_bind]
      simp [Node.rename]
    · refine Heap.holds_ofHandle?.mpr fun handle hhandle => ?_
      obtain ⟨index, -, hhandle⟩ := Option.bind_eq_some_iff.mp (Option.mem_toList.mp hhandle)
      exact hchildren handle (List.mem_of_getElem? hhandle)
  case h_16 =>
    refine .expect (.index fun limit => .length fun start => .ok (.made hheap hstate hnode ?_ ?_))
    · rw [selectChildren_rename]
      simp [Component.rename, Function.comp_def]
    · refine Heap.covers_handles.mpr fun value hvalue => ?_
      obtain ⟨handle, hhandle, rfl⟩ := List.mem_map.mp hvalue
      exact Heap.holds_object.mpr (covers_selectChildren hchildren limit start handle hhandle)
  case h_17 =>
    refine .expect (.ok (.quiet hheap hstate hnode ?_ (Heap.holds_ofHandle?.mpr hparent)))
    rw [Value.rename_ofHandle?]
    rfl
  case h_18 =>
    refine .expect (.text fun id => .ok (.quiet hheap hstate hnode ?_ ?_))
    · rw [Value.rename_ofHandle?, ← hheap.findNode?_eq_map id [] node.children hchildren]
      rfl
    · refine Heap.holds_ofHandle?.mpr fun handle hhandle => ?_
      exact heap.isValid_of_findNode? id [] node.children (Option.mem_toList.mp hhandle)
  case h_19 => exact .unknown

end NodeMethod

end BrightScript
