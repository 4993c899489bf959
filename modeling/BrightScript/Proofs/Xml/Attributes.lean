import BrightScript.Proofs.Dictionary
import BrightScript.Proofs.Method.Effect
import BrightScript.Proofs.Xml.Chains

namespace BrightScript

namespace Xml

/-- The value that a name was given last. -/
def lastValue (added : List (String × String)) (name : String) : Option String :=
  (added.reverse.find? fun entry => entry.1 == name).map Prod.snd

/-- What is left of attributes that are added one after the other: a name stands where it was added
first, with the value that it was given last. -/
structure Leaves (added left : List (String × String)) : Prop where
  names_eq : left.map Prod.fst = Dictionary.firstNames id (added.map Prod.fst)
  value_eq : ∀ entry ∈ left, lastValue added entry.1 = some entry.2

/-- What a table tells of the attributes that it is made from: of names that differ only in letter
case it has the first, with the value of the last. -/
structure Merges (left : List (String × String)) (table : NameMap Value) : Prop where
  names_eq : table.names = Dictionary.firstNames Name.key (left.map Prod.fst)
  get?_eq : ∀ name, table.get? name =
    (left.reverse.find? fun entry => Name.same entry.1 name).map fun entry => .text entry.2

/-- No two names differ only in letter case. -/
def CaseDistinct (added : List (String × String)) : Prop :=
  ∀ first ∈ added, ∀ second ∈ added, Name.same first.1 second.1 = true → first.1 = second.1

/-- How attributes are written. -/
def written (attributes : List (String × String)) : String :=
  String.join (attributes.map fun (name, value) => " " ++ name ++ "=\"" ++ escape value ++ "\"")

theorem leaves_ofList (added : List (String × String)) :
    Leaves added (.ofList added : TextMap String).entries where
  names_eq := Dictionary.names_ofList added
  value_eq entry hentry := by
    have hvalue := Dictionary.get?_of_mem (Dictionary.pairwise_names_ofList added) hentry
    rwa [Dictionary.get?_ofList] at hvalue

/-- The attributes that are left are determined by those that were added. -/
theorem Leaves.eq_map {added left : List (String × String)} (hleft : Leaves added left) :
    left = (Dictionary.firstNames id (added.map Prod.fst)).map fun name =>
      (name, (lastValue added name).getD "") := by
  rw [← hleft.names_eq, List.map_map]
  refine (List.map_id left).symm.trans (List.map_congr_left fun entry hentry => ?_)
  rw [Function.comp_apply, hleft.value_eq entry hentry]
  rfl

theorem lastValue_eq (added : List (String × String)) (name : String) :
    (.ofList added : TextMap String).get? name = lastValue added name :=
  Dictionary.get?_ofList added name

theorem contains_ofList (added : List (String × String)) (name : String) :
    (.ofList added : TextMap String).contains name = decide (name ∈ added.map Prod.fst) := by
  rw [Dictionary.contains_eq_isSome_get?, lastValue_eq, lastValue, Option.isSome_map,
    Bool.eq_iff_iff, List.find?_isSome, decide_eq_true_iff, List.mem_map]
  simp

theorem Leaves.mem_added {added left : List (String × String)} (hleft : Leaves added left)
    {entry : String × String} (hentry : entry ∈ left) : entry ∈ added := by
  obtain ⟨last, hlast, hvalue⟩ := Option.map_eq_some_iff.mp (hleft.value_eq entry hentry)
  have hname : last = entry := Prod.ext (by simpa using List.find?_some hlast) hvalue
  exact hname ▸ List.mem_reverse.mp (List.mem_of_find?_eq_some hlast)

theorem merges_ofList (left : List (String × String)) :
    Merges left (.ofList (left.map fun entry => (entry.1, .text entry.2))) where
  names_eq := by
    rw [Dictionary.names_ofList, List.map_map]
    rfl
  get?_eq name := by
    rw [Dictionary.get?_ofList, ← List.map_reverse, List.find?_map, Option.map_map]
    rfl

theorem pairwise_key_of_caseDistinct {added : List (String × String)} (hadded : CaseDistinct added) :
    ((.ofList added : TextMap String).entries.map Prod.fst).Pairwise
      fun left right => Name.key left ≠ Name.key right := by
  have hnames : (.ofList added : TextMap String).names.Pairwise _ :=
    Dictionary.pairwise_names_ofList added
  rw [Dictionary.names, List.pairwise_map] at hnames
  rw [List.pairwise_map]
  refine hnames.imp_of_mem fun {first second} hfirst hsecond hdiffer hsame => hdiffer ?_
  have hleft := leaves_ofList added
  exact hadded first (hleft.mem_added hfirst) second (hleft.mem_added hsecond)
    (beq_iff_eq.mpr hsame)

theorem mem_leaves_of_mem {added : List (String × String)} {entry : String × String}
    (hentry : entry ∈ added) : ∃ value, lastValue added entry.1 = some value ∧
      (entry.1, value) ∈ (.ofList added : TextMap String).entries := by
  have hcontains := contains_ofList added entry.1
  rw [decide_eq_true (List.mem_map_of_mem hentry), Dictionary.contains_eq_isSome_get?,
    Option.isSome_iff_exists] at hcontains
  obtain ⟨value, hvalue⟩ := hcontains
  obtain ⟨name, rfl, hmem⟩ := Dictionary.exists_mem_of_get? hvalue
  exact ⟨value, (lastValue_eq added entry.1).symm.trans hvalue, hmem⟩

theorem table_of_caseDistinct {added : List (String × String)} (hadded : CaseDistinct added) :
    let left := (.ofList added : TextMap String).entries
    let table : NameMap Value := .ofList (left.map fun entry => (entry.1, .text entry.2))
    table.entries = left.map (fun entry => (entry.1, .text entry.2)) ∧
      ∀ entry ∈ added, table.get? entry.1 = (lastValue added entry.1).map .text := by
  intro left table
  have hnames : ((left.map fun entry => (entry.1, Value.text entry.2)).map Prod.fst).Pairwise
      fun first second => Name.key first ≠ Name.key second := by
    rw [List.map_map]
    exact pairwise_key_of_caseDistinct hadded
  have htable : table.entries = left.map fun entry => (entry.1, .text entry.2) :=
    congrArg Dictionary.entries (Dictionary.ofList_of_pairwise hnames)
  refine ⟨htable, fun entry hentry => ?_⟩
  obtain ⟨value, hvalue, hmem⟩ := mem_leaves_of_mem hentry
  have htext : (entry.1, Value.text value) ∈ table.entries :=
    htable ▸ List.mem_map_of_mem (f := fun entry => (entry.1, Value.text entry.2)) hmem
  rw [hvalue]
  exact Dictionary.get?_of_mem (Dictionary.pairwise_names_ofList _) htext

/-- The attributes of an element stand behind its name; what follows does not depend on them, nor
does it whether the element can be written. -/
theorem exists_document_eq (heap : Heap) (this : Handle) (element : XmlElement) :
    ∃ rest : Except WriteError String, ∀ attributes,
      document heap this { element with attributes := attributes } =
        (fun rest => "<" ++ element.name ++ written attributes.entries ++ rest) <$> rest := by
  obtain ⟨name, -, body⟩ := element
  simp only [document_eq]
  cases body with
  | empty => exact ⟨.ok "/>", fun _ => rfl⟩
  | text value =>
      refine ⟨.ok (">" ++ escape value ++ "</" ++ name ++ ">"), fun attributes => ?_⟩
      change Except.ok (_ ++ ">" ++ escape value ++ closing _) = Except.ok (_ ++ _)
      simp only [closing, String.append_assoc]
      rfl
  | elements children =>
      refine ⟨(fun inner => ">" ++ String.join inner ++ "</" ++ name ++ ">") <$>
        children.mapM (writeChildAt heap (writeAt heap 255) [this]), fun attributes => ?_⟩
      change (children.mapM (writeChildAt heap (writeAt heap 255) [this]) >>= fun inner =>
        Except.ok (_ ++ ">" ++ String.join inner ++ closing _)) = _
      cases children.mapM (writeChildAt heap (writeAt heap 255) [this]) with
      | error e => rfl
      | ok inner =>
          change Except.ok _ = Except.ok (_ ++ _)
          simp only [closing, String.append_assoc]
          rfl

end Xml

theorem ElementMethod.call_addAttribute (heap : Heap) (this : Handle) (element : XmlElement)
    (name value : String) :
    ElementMethod.call heap this element ⟨"addattribute", [.text name, .text value]⟩ =
      .ok ⟨{ element with attributes := element.attributes.insert name value }, heap, .invalid,
        []⟩ :=
  rfl

theorem ElementMethod.call_hasAttribute (heap : Heap) (this : Handle) (element : XmlElement)
    (name : String) : ElementMethod.call heap this element ⟨"hasattribute", [.text name]⟩ =
      .ok ⟨element, heap, .boolean (element.attributes.contains name), []⟩ :=
  rfl

theorem ElementMethod.call_getAttributes (heap : Heap) (this : Handle) (element : XmlElement) :
    ElementMethod.call heap this element ⟨"getattributes", []⟩ =
      .ok (.made element heap (.table (.ofList (element.attributes.entries.map fun entry =>
        (entry.1, .text entry.2))))) :=
  rfl

namespace Heap

/-- The heap after attributes were added to an element one after the other. -/
def addAttributes (heap : Heap) (catalog : NodeCatalog) (this : Handle)
    (added : List (String × String)) : Heap :=
  added.foldl (fun heap entry => (heap.callMethod catalog this "AddAttribute"
    [.text entry.1, .text entry.2]).heap) heap

variable {heap : Heap} {this : Handle} {element : XmlElement}

theorem callMethod_addAttribute (hthis : heap.get? this = some (.element element))
    (catalog : NodeCatalog) (name value : String) :
    heap.callMethod catalog this "AddAttribute" [.text name, .text value] = ⟨.ok .invalid, heap.set
      this (.element { element with attributes := element.attributes.insert name value }), []⟩ := by
  have hmethod : Name.key "AddAttribute" = "addattribute" := by simp [Name.key_eq_iff]
  apply callMethod_of_own hthis
  rw [hmethod, Component.call_element, ElementMethod.call_addAttribute]
  rfl

theorem callMethod_hasAttribute (hthis : heap.get? this = some (.element element))
    (catalog : NodeCatalog) (name : String) :
    heap.callMethod catalog this "HasAttribute" [.text name] =
      ⟨.ok (.boolean (element.attributes.contains name)), heap, []⟩ := by
  have hmethod : Name.key "HasAttribute" = "hasattribute" := by simp [Name.key_eq_iff]
  have hown : (Component.element element).call (heap.lend this) catalog this
      ⟨Name.key "HasAttribute", [.text name]⟩ = .ok ⟨.element element, heap.lend this,
        .boolean (element.attributes.contains name), []⟩ := by
    rw [hmethod, Component.call_element, ElementMethod.call_hasAttribute]
    rfl
  rw [callMethod_of_own hthis hown, set_self hthis]

theorem exists_gives_of_getAttributes (hheap : heap.WellFormed) (catalog : NodeCatalog)
    (hthis : heap.get? this = some (.element element)) :
    ∃ handle, (heap.callMethod catalog this "GetAttributes" []).Gives heap handle
      (.table (.ofList (element.attributes.entries.map fun entry =>
        (entry.1, .text entry.2)))) := by
  have hmethod : Name.key "GetAttributes" = "getattributes" := by simp [Name.key_eq_iff]
  apply exists_gives_of_call hheap hthis
  rw [hmethod, Component.call_element, ElementMethod.call_getAttributes]
  rfl

theorem addAttributes_eq_set (hthis : heap.get? this = some (.element element))
    (catalog : NodeCatalog) (added : List (String × String)) :
    heap.addAttributes catalog this added = heap.set this
      (.element { element with attributes := element.attributes.insertMany added }) := by
  induction added generalizing heap element with
  | nil => exact (set_self hthis).symm
  | cons entry rest ih =>
      let next := { element with attributes := element.attributes.insert entry.1 entry.2 }
      have hnext : (heap.set this (.element next)).get? this = some (.element next) := by
        rw [get?_set, if_pos rfl, hthis]
        rfl
      rw [addAttributes, List.foldl_cons, callMethod_addAttribute hthis, ← addAttributes, ih hnext,
        set_set hthis]
      rfl

theorem get?_addAttributes (hthis : heap.get? this = some (.element element))
    (hnew : element.attributes = .empty) (catalog : NodeCatalog) (added : List (String × String)) :
    (heap.addAttributes catalog this added).get? this =
      some (.element { element with attributes := .ofList added }) := by
  rw [addAttributes_eq_set hthis, get?_set, if_pos rfl, hthis, hnew]
  rfl

theorem WellFormed.addAttributes (hheap : heap.WellFormed)
    (hthis : heap.get? this = some (.element element)) (catalog : NodeCatalog)
    (added : List (String × String)) : (heap.addAttributes catalog this added).WellFormed := by
  rw [addAttributes_eq_set hthis]
  exact hheap.set this _

theorem result_genXml_addAttributes (hthis : heap.get? this = some (.element element))
    (hnew : element.attributes = .empty) (catalog : NodeCatalog) (added : List (String × String)) :
    ∃ rest : Except MethodError String,
      (heap.callMethod catalog this "GenXML" [.boolean false]).result =
        (fun rest => .text ("<" ++ element.name ++ rest)) <$> rest ∧
      ((heap.addAttributes catalog this added).callMethod catalog this "GenXML"
        [.boolean false]).result = (fun rest => .text ("<" ++ element.name ++
          Xml.written (.ofList added : TextMap String).entries ++ rest)) <$> rest := by
  have hmethod : Name.key "GenXML" = "genxml" := by simp [Name.key_eq_iff]
  obtain ⟨rest, hrest⟩ := Xml.exists_document_eq (heap.lend this) this element
  have hbefore : Xml.document (heap.lend this) this element =
      (fun rest => "<" ++ element.name ++ rest) <$> rest := by
    have hnone : Xml.written element.attributes.entries = "" := by
      rw [hnew]
      rfl
    have hsame := hrest element.attributes
    simp only [hnone, String.append_empty] at hsame
    exact hsame
  refine ⟨rest.mapError fun e => .failed "genxml" e.message, ?_, ?_⟩
  · rw [result_genXml hthis catalog hmethod (.inr rfl), hbefore]
    cases rest <;> rfl
  · rw [result_genXml (get?_addAttributes hthis hnew catalog added) catalog hmethod (.inr rfl),
      addAttributes_eq_set hthis, lend_set hthis, hrest]
    cases rest <;> rfl

/-- What an element tells of the attributes that were added to it one after the other. Each name that
was added is one of its attributes and is written once, with the value that it was given last. The
table that the element gives has one entry for the names that differ only in letter case, and the
attributes themselves if there are no such names. -/
theorem getAttributes_merges_names (hheap : heap.WellFormed)
    (hthis : heap.get? this = some (.element element)) (hnew : element.attributes = .empty)
    (catalog : NodeCatalog) (added : List (String × String)) :
    let after := heap.addAttributes catalog this added
    ∃ left, Xml.Leaves added left ∧
      (∀ name, (after.callMethod catalog this "HasAttribute" [.text name]).result =
        .ok (.boolean (decide (name ∈ added.map Prod.fst)))) ∧
      (∃ rest : Except MethodError String,
        (heap.callMethod catalog this "GenXML" [.boolean false]).result =
          (fun rest => .text ("<" ++ element.name ++ rest)) <$> rest ∧
        (after.callMethod catalog this "GenXML" [.boolean false]).result =
          (fun rest => .text ("<" ++ element.name ++ Xml.written left ++ rest)) <$> rest) ∧
      ∃ handle table,
        (after.callMethod catalog this "GetAttributes" []).Gives after handle (.table table) ∧
        Xml.Merges left table ∧
        (Xml.CaseDistinct added →
          table.entries = left.map (fun entry => (entry.1, .text entry.2)) ∧
          ∀ entry ∈ added, table.get? entry.1 = (Xml.lastValue added entry.1).map .text) := by
  intro after
  have hafter := get?_addAttributes hthis hnew catalog added
  obtain ⟨handle, hgives⟩ :=
    exists_gives_of_getAttributes (hheap.addAttributes hthis catalog added) catalog hafter
  refine ⟨(.ofList added : TextMap String).entries, Xml.leaves_ofList added, fun name => ?_,
    result_genXml_addAttributes hthis hnew catalog added, handle, _, hgives, Xml.merges_ofList _,
    Xml.table_of_caseDistinct⟩
  rw [callMethod_hasAttribute hafter, Xml.contains_ofList]

/-- The element of a heap that holds nothing else. -/
def loneElement : Handle := ⟨⟨0⟩, 0, 0⟩

/-- A heap that holds one element, named `item`. -/
def elementHeap : Heap := ((Heap.empty ⟨0⟩).alloc (.element { name := "item" })).2

theorem wellFormed_elementHeap : elementHeap.WellFormed := (wellFormed_empty ⟨0⟩ 0).alloc _

theorem get?_elementHeap : elementHeap.get? loneElement = some (.element { name := "item" }) := rfl

/-- Attributes whose names differ in letter case are both written. -/
theorem getAttributes_merges_names_of_item :
    let after := elementHeap.addAttributes .empty loneElement [("id", "1"), ("b", "x"), ("ID", "2")]
    elementHeap.WellFormed ∧
      (after.callMethod .empty loneElement "GenXML" [.boolean false]).result =
        .ok (.text "<item id=\"1\" b=\"x\" ID=\"2\"/>") ∧
      ∃ handle table,
        (after.callMethod .empty loneElement "GetAttributes" []).Gives after handle (.table table) ∧
        table.names = ["id", "b"] ∧ table.get? "Id" = some (.text "2") := by
  intro after
  obtain ⟨left, hleft, -, ⟨rest, hbefore, hafter⟩, handle, table, hgives, hmerges, -⟩ :=
    getAttributes_merges_names wellFormed_elementHeap get?_elementHeap rfl .empty
      [("id", "1"), ("b", "x"), ("ID", "2")]
  have hvalues : left = [("id", "1"), ("b", "x"), ("ID", "2")] := by
    rw [hleft.eq_map]
    decide +kernel
  subst hvalues
  have hkeys : Name.key "id" = "id" ∧ Name.key "b" = "b" ∧ Name.key "ID" = "id" ∧
      Name.key "Id" = "id" := by
    simp [Name.key_eq_iff]
  have hnil : Dictionary.firstNames Name.key [] = [] := rfl
  refine ⟨wellFormed_elementHeap, ?_, handle, table, hgives, ?_, ?_⟩
  · have hempty : (elementHeap.callMethod .empty loneElement "GenXML" [.boolean false]).result =
        .ok (.text "<item/>") := by
      decide +kernel
    rw [hempty] at hbefore
    cases rest with
    | error e => cases hbefore
    | ok rest =>
        have htext : "<" ++ "item" ++ "/>" = "<" ++ "item" ++ rest :=
          Value.text.inj (Except.ok.inj hbefore)
        rw [String.append_right_inj] at htext
        subst htext
        rw [hafter]
        decide +kernel
  · rw [hmerges.names_eq]
    simp [Dictionary.firstNames_cons, hnil, Dictionary.sameKey, hkeys]
  · rw [hmerges.get?_eq]
    simp [Name.same, hkeys]

/-- Of two attributes whose names differ in letter case one is lost. -/
theorem getAttributes_loses_name :
    let after := elementHeap.addAttributes .empty loneElement [("a", "1"), ("A", "2")]
    (∀ name ∈ ["a", "A"], (after.callMethod .empty loneElement "HasAttribute" [.text name]).result =
      .ok (.boolean true)) ∧
    Xml.lastValue [("a", "1"), ("A", "2")] "a" = some "1" ∧
    ∃ handle table,
      (after.callMethod .empty loneElement "GetAttributes" []).Gives after handle (.table table) ∧
      table.size = 1 ∧ table.get? "a" = some (.text "2") := by
  intro after
  have hafter := get?_addAttributes get?_elementHeap rfl .empty [("a", "1"), ("A", "2")]
  have hwell := wellFormed_elementHeap.addAttributes get?_elementHeap .empty [("a", "1"), ("A", "2")]
  obtain ⟨handle, hgives⟩ := exists_gives_of_getAttributes hwell .empty hafter
  have hmerges := Xml.merges_ofList [("a", "1"), ("A", "2")]
  have hkeys : Name.key "a" = "a" ∧ Name.key "A" = "a" := by simp [Name.key_eq_iff]
  have hnil : Dictionary.firstNames Name.key [] = [] := rfl
  refine ⟨fun name hname => ?_, rfl, handle, _, hgives, ?_, ?_⟩
  · rw [callMethod_hasAttribute hafter, Xml.contains_ofList]
    exact congrArg (fun known => Except.ok (Value.boolean known)) (decide_eq_true hname)
  · have hnames := congrArg List.length hmerges.names_eq
    rw [Dictionary.names, List.length_map] at hnames
    rw [Dictionary.size]
    refine hnames.trans ?_
    simp [Dictionary.firstNames_cons, hnil, Dictionary.sameKey, hkeys]
  · refine (hmerges.get?_eq "a").trans ?_
    simp [Name.same, hkeys]

end Heap

end BrightScript
