import BrightScript.Proofs.Method.Record

namespace BrightScript

namespace Heap

/-- A document of fields shows each of them once, with the document of its value. -/
def Shows (heap : Heap) (this : Handle) (fields : NameMap Value) (json : Json) : Prop :=
  ∃ members, json = .object members ∧
    members.Perm (fields.entries.map fun field => (field.1, heap.documentAt [this] field.2))

/-- What a table tells of its entries. -/
structure TellsEntries (heap : Heap) (catalog : NodeCatalog) (this : Handle)
    (fields : NameMap Value) : Prop where
  count : (heap.callMethod catalog this "Count" []).result = .ok (.ofNat fields.names.length)
  keys : ∃ handle, (heap.callMethod catalog this "Keys" []).Gives heap handle
    (.array (fields.names.map Value.text).toArray)
  items : ∃ handle shown,
    (heap.callMethod catalog this "Items" []).result = .ok (.object handle) ∧
    (heap.callMethod catalog this "Items" []).heap.get? handle =
      some (.array (shown.map Value.object).toArray) ∧
    List.Forall₂ (fun item field =>
      (heap.callMethod catalog this "Items" []).heap.get? item =
        some (TableMethod.entry field.1 field.2)) shown fields.entries
  snapshot : heap.Shows this fields (heap.snapshot (.object this))

/-- What a node tells of its fields. -/
structure TellsFields (heap : Heap) (catalog : NodeCatalog) (this : Handle) (node : Node) :
    Prop where
  /-- The node gives its fields in a table, and these can be given back to it, which changes
  nothing. -/
  getFields : ∃ handle,
    let given := heap.callMethod catalog this "GetFields" []
    given.Gives heap handle (.table node.fields) ∧
      given.heap.callMethod catalog this "SetFields" [.object handle] =
        ⟨.ok (.boolean true), given.heap, []⟩
  snapshot : ∃ children members, heap.Shows this node.fields members ∧
    heap.snapshot (.object this) = .object [("children", children), ("fields", members),
      ("subtype", .text node.subtype)]

variable {heap : Heap} {this : Handle} {fields : NameMap Value}

theorem shows_sortedObject (this : Handle)
    (hdistinct : fields.names.Pairwise fun left right => Name.key left ≠ Name.key right) :
    heap.Shows this fields (Component.sortedObject
      (Component.fieldDocuments (heap.documentAt [this]) fields)) := by
  have hnames : ((Component.fieldDocuments (heap.documentAt [this]) fields).map Prod.fst).Nodup := by
    rw [Component.fieldDocuments, List.map_map]
    exact hdistinct.imp fun hdiffer hsame => hdiffer (congrArg Name.key hsame)
  exact ⟨_, rfl, SortedMap.perm_ofList hnames⟩

theorem exists_shown_of_entries (hheap : heap.WellFormed) (entries : List (String × Value)) :
    ∃ shown, (TableMethod.entries heap entries).1 = shown.map Value.object ∧
      List.Forall₂ (fun item field => (TableMethod.entries heap entries).2.get? item =
        some (TableMethod.entry field.1 field.2)) shown entries := by
  induction entries generalizing heap with
  | nil => exact ⟨[], rfl, .nil⟩
  | cons field rest ih =>
      have hnext := hheap.alloc (TableMethod.entry field.1 field.2)
      obtain ⟨shown, hshown, hall⟩ := ih hnext
      -- the entries that are made later leave the first one alone
      have hkept := (TableMethod.grows_entries _ rest).get?_eq hnext
        (hheap.isValid_alloc_self (TableMethod.entry field.1 field.2))
      rw [hheap.get?_alloc, if_pos rfl] at hkept
      exact ⟨_ :: shown, congrArg (_ :: ·) hshown, .cons hkept hall⟩

theorem tellsEntries (hheap : heap.WellFormed) (hget : heap.get? this = some (.table fields))
    (hdistinct : fields.names.Pairwise fun left right => Name.key left ≠ Name.key right)
    (catalog : NodeCatalog) : heap.TellsEntries catalog this fields where
  count := by
    have hmethod : Name.key "Count" = "count" := by simp [Name.key_eq_iff]
    have hcall : (Component.table fields).call (heap.lend this) catalog this
        ⟨Name.key "Count", []⟩ =
          .ok ⟨.table fields, heap.lend this, .ofNat fields.names.length, []⟩ := by
      rw [hmethod, Dictionary.names, List.length_map]
      rfl
    rw [callMethod_of_own hget hcall]
  keys := by
    have hmethod : Name.key "Keys" = "keys" := by simp [Name.key_eq_iff]
    apply exists_gives_of_call hheap hget
    rw [hmethod]
    rfl
  items := by
    have hmethod : Name.key "Items" = "items" := by simp [Name.key_eq_iff]
    have hlent := hheap.lend this
    have hgrows := TableMethod.grows_entries (heap.lend this) fields.entries
    have hcall : (Component.table fields).call (heap.lend this) catalog this
        ⟨Name.key "Items", []⟩ =
          .ok (.made (.table fields) (TableMethod.entries (heap.lend this) fields.entries).2
            (.array (TableMethod.entries (heap.lend this) fields.entries).1.toArray)) := by
      rw [hmethod]
      rfl
    obtain ⟨handle, hresult, hfresh, hothers, -⟩ := exists_made_of_call hheap hget hgrows hcall
    obtain ⟨shown, hshown, hall⟩ := exists_shown_of_entries hlent fields.entries
    have hout : (TableMethod.entries (heap.lend this) fields.entries).2.get? this = none := by
      rw [hgrows.get?_eq hlent (by rw [isValid_lend]; exact isValid_of_get? hget), get?_lend_self]
    refine ⟨handle, shown, hresult, ?_, hall.imp fun item field hitem => ?_⟩
    · rw [hothers, if_pos rfl, hshown]
    · have hnew : handle ≠ item := by
        rintro rfl
        rw [get?_eq_none_of_not_isValid hfresh] at hitem
        cases hitem
      have hthis : this ≠ item := by
        rintro rfl
        rw [hout] at hitem
        cases hitem
      rw [hothers, if_neg hnew, if_neg hthis, hitem]
  snapshot := by
    rw [snapshot_eq, documentAt_component hget rfl]
    exact shows_sortedObject this hdistinct

theorem exists_gives_of_getFields {node : Node} (hheap : heap.WellFormed)
    (hget : heap.get? this = some (.node node))
    (hdistinct : node.fields.names.Pairwise fun left right => Name.key left ≠ Name.key right)
    (catalog : NodeCatalog) :
    ∃ handle, (heap.callMethod catalog this "GetFields" []).Gives heap handle
      (.table node.fields) := by
  have hmethod : Name.key "GetFields" = "getfields" := by simp [Name.key_eq_iff]
  have hsame : (.ofList node.fields.entries : NameMap Value) = node.fields :=
    Dictionary.ofList_of_pairwise hdistinct
  apply exists_gives_of_call hheap hget
  rw [hmethod, ← congrArg Component.table hsame]
  rfl

theorem callMethod_setFields_own {node : Node} {source : Handle}
    (hthis : heap.get? this = some (.node node))
    (hdistinct : node.fields.names.Pairwise fun left right => Name.key left ≠ Name.key right)
    (hsource : heap.get? source = some (.table node.fields)) (catalog : NodeCatalog) :
    heap.callMethod catalog this "SetFields" [.object source] =
      ⟨.ok (.boolean true), heap, []⟩ := by
  have hmethod : Name.key "SetFields" = "setfields" := by simp [Name.key_eq_iff]
  have hdiffer : this ≠ source := by
    rintro rfl
    rw [hthis] at hsource
    cases hsource
  have hsame : node.setFields false node.fields.entries = node :=
    Node.setFields_of_mem hdistinct false fun _ hfield => hfield
  have hcall := NodeMethod.call_setFields (heap.lend this) catalog this node false source
  rw [get?_lend, if_neg hdiffer, hsource] at hcall
  dsimp only at hcall
  rw [hsame] at hcall
  have hown : (Component.node node).call (heap.lend this) catalog this
      ⟨Name.key "SetFields", [.object source]⟩ =
        .ok ⟨.node node, heap.lend this, .boolean true, []⟩ := by
    rw [hmethod, Component.call_node]
    exact congrArg (fun effect => Effect.map Component.node <$> effect) hcall
  rw [callMethod_of_own hthis hown, set_self hthis]

theorem tellsFields {node : Node} (hheap : heap.WellFormed)
    (hget : heap.get? this = some (.node node))
    (hdistinct : node.fields.names.Pairwise fun left right => Name.key left ≠ Name.key right)
    (catalog : NodeCatalog) : heap.TellsFields catalog this node where
  getFields := by
    obtain ⟨handle, hgives⟩ := exists_gives_of_getFields hheap hget hdistinct catalog
    have hother : handle ≠ this := by
      rintro rfl
      have hvalid := hgives.fresh
      rw [isValid_of_get? hget] at hvalid
      cases hvalid
    have hthis := hgives.get?_eq this
    rw [if_neg hother, hget] at hthis
    exact ⟨handle, hgives, callMethod_setFields_own hthis hdistinct hgives.get?_self catalog⟩
  snapshot := by
    rw [snapshot_eq, documentAt_component hget rfl]
    exact ⟨_, _, shows_sortedObject this hdistinct, rfl⟩

/-- What a table or a node owes to its history, whatever a program did. No two of its names are the
same; they stand in the order in which they entered, spelled as they were then, and each has the
value that it was given last under any spelling. All that the component tells of them agrees, and a
node to which its fields are given back is as before. -/
theorem fields_follow_history {history : List (MapEvent Value)}
    (hrecorded : Recorded this heap history) (catalog : NodeCatalog) :
    ∃ fields, heap.fields? this = some fields ∧ fields.Records history ∧
      (heap.get? this = some (.table fields) → heap.TellsEntries catalog this fields) ∧
      ∀ node, heap.get? this = some (.node node) →
        node.fields = fields ∧ heap.TellsFields catalog this node := by
  have hfields := hrecorded.fields?_eq
  have hheap := hrecorded.scripted.forested.wellFormed
  have hrecords : (Dictionary.empty.applyAll history : NameMap Value).Records history :=
    Dictionary.records_applyAll history
  refine ⟨_, hfields, hrecords, fun hget => tellsEntries hheap hget hrecords.pairwise catalog,
    fun node hget => ?_⟩
  have hnode := Option.some.inj ((fields?_of_node hget).symm.trans hfields)
  exact ⟨hnode, tellsFields hheap hget (hnode ▸ hrecords.pairwise) catalog⟩

/-- The heap after methods of a component were called one after the other. -/
def callEach (heap : Heap) (this : Handle) (calls : List (String × List Value)) : Heap :=
  calls.foldl (fun heap call => (heap.callMethod .empty this call.1 call.2).heap) heap

/-- What the calls do to its entries or fields. -/
def eventsEach (heap : Heap) (this : Handle) : List (String × List Value) → List (MapEvent Value)
  | [] => []
  | call :: rest => heap.events this ⟨Name.key call.1, call.2⟩ ++
      eventsEach (heap.callMethod .empty this call.1 call.2).heap this rest

theorem Recorded.callEach {history : List (MapEvent Value)} (hrecorded : Recorded this heap history)
    (calls : List (String × List Value)) :
    Recorded this (heap.callEach this calls) (history ++ heap.eventsEach this calls) := by
  induction calls generalizing heap history with
  | nil => rwa [eventsEach, List.append_nil]
  | cons call rest ih =>
      have hcall := hrecorded.callMethod .empty this call.1 call.2
      rw [if_pos rfl] at hcall
      rw [eventsEach, ← List.append_assoc]
      exact ih hcall

/-- The table of a heap that holds nothing else. -/
def loneTable : Handle := ⟨⟨0⟩, 0, 0⟩

/-- A heap that holds one table. -/
def tableHeap : Heap := ((Heap.empty ⟨0⟩).alloc (.table (.ofList [("Name", .integer 1)]))).2

/-- A name is written under two spellings, removed, and written again behind another one. -/
def rewritings : List (String × List Value) := [("AddReplace", [.text "NAME", .integer 2]),
  ("AddReplace", [.text "b", .integer 3]), ("Delete", [.text "name"]),
  ("AddReplace", [.text "nAME", .integer 4])]

theorem eventsEach_rewritings : Dictionary.writes [("Name", .integer 1)] ++
    tableHeap.eventsEach loneTable rewritings = [.write "Name" (.integer 1),
      .write "NAME" (.integer 2), .write "b" (.integer 3), .remove "name",
      .write "nAME" (.integer 4)] := by
  decide +kernel

theorem fields_follow_history_of_rewritings :
    let heap := tableHeap.callEach loneTable rewritings
    let history : List (MapEvent Value) := [.write "Name" (.integer 1), .write "NAME" (.integer 2),
      .write "b" (.integer 3), .remove "name", .write "nAME" (.integer 4)]
    Recorded loneTable heap history ∧
    ∃ fields, heap.fields? loneTable = some fields ∧ fields.Records history ∧
      fields.names = ["b", "nAME"] := by
  intro heap history
  have hmade : tableHeap.Scripted := .literal (.empty ⟨0⟩ 0) rfl
  have hget : tableHeap.get? loneTable = some (.table (.ofList [("Name", .integer 1)])) := rfl
  have hrecorded := (Recorded.table hmade hget).callEach rewritings
  rw [eventsEach_rewritings] at hrecorded
  obtain ⟨fields, hfields, hrecords, -⟩ := fields_follow_history hrecorded .empty
  refine ⟨hrecorded, fields, hfields, hrecords, ?_⟩
  have hkeys : Name.key "Name" = "name" ∧ Name.key "NAME" = "name" ∧ Name.key "name" = "name" ∧
      Name.key "nAME" = "name" ∧ Name.key "b" = "b" := by
    simp [Name.key_eq_iff]
  cases hfields.symm.trans hrecorded.fields?_eq
  simp [Dictionary.applyAll, Dictionary.apply, Dictionary.insert, Dictionary.put, Dictionary.erase,
    Dictionary.names, Dictionary.empty, hkeys]

end Heap

end BrightScript
