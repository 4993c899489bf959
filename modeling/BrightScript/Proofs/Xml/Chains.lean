import BrightScript.Method.Dispatch
import BrightScript.Proofs.Attempt
import BrightScript.Proofs.Heap.Slots
import BrightScript.Proofs.Xml.Writing

namespace BrightScript

namespace Xml

/-- The elements in the body of a handle's element. -/
def childrenOf (heap : Heap) (handle : Handle) : List Handle :=
  match heap.get? handle with
  | some (.element element) => element.children
  | _ => []

/-- All children of elements are elements. -/
def Closed (heap : Heap) : Prop :=
  ∀ handle element, heap.get? handle = some (.element element) →
    ∀ child ∈ element.children, ∃ inner, heap.get? child = some (.element inner)

/-- The chain of elements from a handle down through the children at the given places. -/
def chain? (heap : Heap) (handle : Handle) : List Nat → Option (List Handle)
  | [] => some [handle]
  | place :: places => (childrenOf heap handle)[place]?.bind fun child =>
    (chain? heap child places).map (handle :: ·)

/-- A chain that must not be written: an element stands in itself, or too many stand in each
other. -/
def Offends (chain : List Handle) : Prop := ¬ chain.Nodup ∨ maxDepth < chain.length

/-- The error that a chain gives. -/
def offence (chain : List Handle) : WriteError := if chain.Nodup then .tooDeep else .containsItself

/-- Of the chains from a handle, one is the first for which `bad` holds. A chain comes before those
that continue it, and these come in the order of the children. -/
structure First (heap : Heap) (bad : List Handle → Prop) (handle : Handle) (places : List Nat)
    (chain : List Handle) : Prop where
  chain?_eq : chain? heap handle places = some chain
  holds : bad chain
  earlier : ∀ before < places, ∀ other, chain? heap handle before = some other → ¬ bad other

theorem First.unique {heap : Heap} {bad : List Handle → Prop} {handle : Handle}
    {places others : List Nat} {chain other : List Handle}
    (hfirst : First heap bad handle places chain) (hother : First heap bad handle others other) :
    chain = other := by
  rcases lt_trichotomy places others with hless | rfl | hless
  · exact absurd hfirst.holds (hother.earlier places hless chain hfirst.chain?_eq)
  · exact Option.some.inj (hfirst.chain?_eq.symm.trans hother.chain?_eq)
  · exact absurd hother.holds (hfirst.earlier others hless other hother.chain?_eq)

section Chains

variable {heap : Heap} {handle child : Handle} {around : List Handle}

theorem offends_middle (chain : List Handle) :
    Offends (around ++ handle :: chain) ↔ Offends (handle :: around ++ chain) := by
  unfold Offends
  rw [List.perm_middle.nodup_iff, List.perm_middle.length_eq]
  rfl

theorem offence_middle (chain : List Handle) :
    offence (around ++ handle :: chain) = offence (handle :: around ++ chain) := by
  unfold offence
  simp only [List.perm_middle.nodup_iff]
  rfl

theorem not_offends_concat (hdistinct : (handle :: around).Nodup)
    (hroom : around.length < maxDepth) : ¬ Offends (around ++ [handle]) := by
  rw [offends_middle, List.append_nil]
  rintro (hrepeats | hlong)
  · exact hrepeats hdistinct
  · rw [List.length_cons] at hlong
    omega

/-- No chain from a handle offends below the elements `around`. -/
def Clean (heap : Heap) (around : List Handle) (handle : Handle) : Prop :=
  ∀ places chain, chain? heap handle places = some chain → ¬ Offends (around ++ chain)

theorem exists_of_chain?_cons {place : Nat} {places : List Nat} {chain : List Handle}
    (hchain : chain? heap handle (place :: places) = some chain) :
    ∃ child inner, (childrenOf heap handle)[place]? = some child ∧
      chain? heap child places = some inner ∧ chain = handle :: inner := by
  rw [chain?] at hchain
  obtain ⟨child, hchild, hbelow⟩ := Option.bind_eq_some_iff.mp hchain
  obtain ⟨inner, hinner, rfl⟩ := Option.map_eq_some_iff.mp hbelow
  exact ⟨child, inner, hchild, hinner, rfl⟩

theorem clean_of_children (hself : ¬ Offends (around ++ [handle]))
    (hchildren : ∀ child ∈ childrenOf heap handle, Clean heap (handle :: around) child) :
    Clean heap around handle := by
  rintro (_ | ⟨place, places⟩) chain hchain
  · cases hchain
    exact hself
  · obtain ⟨child, inner, hchild, hinner, rfl⟩ := exists_of_chain?_cons hchain
    rw [offends_middle]
    exact hchildren child (List.mem_of_getElem? hchild) places inner hinner

theorem first_of_child (hself : ¬ Offends (around ++ [handle])) {place : Nat} {places : List Nat}
    {chain : List Handle} (hchild : (childrenOf heap handle)[place]? = some child)
    (hearlier : ∀ before < place, ∀ other, (childrenOf heap handle)[before]? = some other →
      Clean heap (handle :: around) other)
    (hfirst : First heap (fun chain => Offends (handle :: around ++ chain)) child places chain) :
    First heap (fun chain => Offends (around ++ chain)) handle (place :: places)
      (handle :: chain) := by
  constructor
  · rw [chain?, hchild, Option.bind_some, hfirst.chain?_eq, Option.map_some]
  · exact (offends_middle chain).mpr hfirst.holds
  · rintro (_ | ⟨before, others⟩) hless other hother
    · cases hother
      exact hself
    · obtain ⟨sibling, inner, hsibling, hinner, rfl⟩ := exists_of_chain?_cons hother
      rw [offends_middle]
      rcases List.cons_lt_cons_iff.mp hless with hbefore | ⟨rfl, hbefore⟩
      · exact hearlier before hbefore sibling hsibling others inner hinner
      · cases hchild.symm.trans hsibling
        exact hfirst.earlier others hbefore inner hinner

/-- The walk over the chains of a handle tells the first that offends, or that there is none. -/
def Follows (heap : Heap) (around : List Handle) (handle : Handle) :
    Except WriteError String → Prop
  | .ok _ => Clean heap around handle
  | .error e => ∃ places chain,
    First heap (fun chain => Offends (around ++ chain)) handle places chain ∧
      e = offence (around ++ chain)

theorem follows_self (hself : Offends (around ++ [handle])) {e : WriteError}
    (herror : e = offence (around ++ [handle])) : Follows heap around handle (.error e) := by
  refine ⟨[], [handle], ⟨rfl, hself, ?_⟩, herror⟩
  intro before hless
  exact absurd hless (List.not_lt_nil before)

end Chains

section Document

variable {heap : Heap} {this : Handle}

theorem follows_writeChildAt {depth : Nat} {around : List Handle} {child : Handle}
    {inner : XmlElement} (hget : heap.get? child = some (.element inner)) (hthis : this ∈ around)
    (hinner : child ∉ around →
      Follows heap around child (writeAt (heap.lend this) depth (child :: around) inner)) :
    Follows heap around child
      (writeChildAt (heap.lend this) (writeAt (heap.lend this) depth) around child) := by
  unfold writeChildAt
  by_cases hmem : child ∈ around
  · rw [if_pos (List.contains_iff_mem.mpr hmem)]
    have hrepeats : ¬ (around ++ [child]).Nodup := by
      intro hdistinct
      exact List.disjoint_of_nodup_append hdistinct hmem List.mem_cons_self
    apply follows_self (.inl hrepeats)
    rw [offence, if_neg hrepeats]
  · -- the element that the method is called on is out of the heap, but it is not met again
    have hother : this ≠ child := by
      rintro rfl
      exact hmem hthis
    rw [if_neg (mt List.contains_iff_mem.mp hmem), Heap.get?_lend, if_neg hother, hget]
    exact hinner hmem

theorem childrenOf_eq {handle : Handle} {element : XmlElement}
    (hget : heap.get? handle = some (.element element)) :
    childrenOf heap handle = element.children := by
  rw [childrenOf, hget]

theorem follows_children {around : List Handle} {handle : Handle}
    (hself : ¬ Offends (around ++ [handle])) {write : Handle → Except WriteError String}
    (finish : List String → String)
    (hfollows : ∀ child ∈ childrenOf heap handle,
      Follows heap (handle :: around) child (write child)) :
    Follows heap around handle
      ((childrenOf heap handle).mapM write >>= fun inner => .ok (finish inner)) := by
  have hclean : ∀ child ∈ childrenOf heap handle, (∃ written, write child = .ok written) →
      Clean heap (handle :: around) child := by
    rintro child hchild ⟨written, hwritten⟩
    have hchild := hfollows child hchild
    rwa [hwritten] at hchild
  cases hwritten : (childrenOf heap handle).mapM write with
  | ok written =>
      apply clean_of_children hself
      intro child hchild
      exact hclean child hchild (exists_of_mapM_eq_ok hwritten child hchild)
  | error e =>
      obtain ⟨place, child, hplace, herror, hbefore⟩ := exists_of_mapM_eq_error hwritten
      have hchild := hfollows child (List.mem_of_getElem? hplace)
      rw [herror] at hchild
      obtain ⟨places, chain, hfirst, rfl⟩ := hchild
      refine ⟨place :: places, handle :: chain, ?_, (offence_middle chain).symm⟩
      apply first_of_child hself hplace ?_ hfirst
      intro before hless other hother
      exact hclean other (List.mem_of_getElem? hother) (hbefore before hless other hother)

theorem follows_writeAt (hclosed : Closed heap) {depth : Nat} {around : List Handle}
    {handle : Handle} {element : XmlElement} (hget : heap.get? handle = some (.element element))
    (hdistinct : (handle :: around).Nodup) (hthis : this ∈ handle :: around)
    (hroom : around.length + depth = maxDepth) :
    Follows heap around handle (writeAt (heap.lend this) depth (handle :: around) element) := by
  -- the elements around and the levels left make up all levels that there may be
  induction depth generalizing around handle element with
  | zero =>
      have hlong : maxDepth < (around ++ [handle]).length := by
        rw [List.length_append, List.length_singleton]
        omega
      have hchain := (List.perm_append_singleton handle around).nodup_iff.mpr hdistinct
      apply follows_self (.inr hlong)
      rw [offence, if_pos hchain]
  | succ depth ih =>
      have hself := not_offends_concat hdistinct (by omega)
      have hchildren := childrenOf_eq hget
      have hfollows : ∀ child ∈ childrenOf heap handle, Follows heap (handle :: around) child
          (writeChildAt (heap.lend this) (writeAt (heap.lend this) depth) (handle :: around)
            child) := by
        intro child hchild
        obtain ⟨inner, hinner⟩ := hclosed handle element hget child (hchildren ▸ hchild)
        apply follows_writeChildAt hinner hthis
        intro hfresh
        apply ih hinner (List.nodup_cons.mpr ⟨hfresh, hdistinct⟩) (List.mem_cons_of_mem child hthis)
        rw [List.length_cons]
        omega
      unfold XmlElement.children at hchildren
      rw [writeAt]
      cases hbody : element.body with
      | elements children =>
          rw [hbody] at hchildren
          have hwalk := follows_children hself (fun inner => "<" ++ element.name ++
            attributes element ++ ">" ++ String.join inner ++ closing element) hfollows
          rwa [hchildren] at hwalk
      | _ =>
          rw [hbody] at hchildren
          apply clean_of_children hself
          rw [hchildren]
          exact List.forall_mem_nil _

end Document

end Xml

section Call

variable {heap : Heap} {this : Handle} {element : XmlElement}

theorem ElementMethod.perform_genXml {arguments : List Value} {header : Bool}
    (harguments : arguments = [] ∧ header = true ∨ arguments = [.boolean header]) :
    ElementMethod.perform this ⟨"genxml", arguments⟩ ⟨element, heap, []⟩ =
      match Xml.document heap this element with
      | .ok written =>
        .ok (.text (if header then Xml.header ++ written else written)) ⟨element, heap, []⟩
      | .error e => .error (.failed "genxml" e.message) ⟨element, heap, []⟩ := by
  simp only [ElementMethod.perform]
  have hwrite : ∀ withHeader : Bool, (match Xml.document heap this element with
        | .ok written => pure (.text (if withHeader then Xml.header ++ written else written))
        | .error e => throw (.failed "genxml" e.message) :
          Procedure (Receiver XmlElement) Value) ⟨element, heap, []⟩ =
      match Xml.document heap this element with
      | .ok written =>
        .ok (.text (if withHeader then Xml.header ++ written else written)) ⟨element, heap, []⟩
      | .error e => .error (.failed "genxml" e.message) ⟨element, heap, []⟩ := by
    intro withHeader
    cases Xml.document heap this element <;> rfl
  rcases harguments with ⟨rfl, rfl⟩ | rfl
  · exact hwrite true
  · exact hwrite header

theorem Heap.result_genXml (hthis : heap.get? this = some (.element element))
    (catalog : NodeCatalog) {method : String} (hmethod : Name.key method = "genxml")
    {arguments : List Value} {header : Bool}
    (harguments : arguments = [] ∧ header = true ∨ arguments = [.boolean header]) :
    (heap.callMethod catalog this method arguments).result =
      match Xml.document (heap.lend this) this element with
      | .ok written => .ok (.text (if header then Xml.header ++ written else written))
      | .error e => .error (.failed "genxml" e.message) := by
  unfold Heap.callMethod Heap.take?
  rw [hthis, hmethod]
  simp only [Component.perform, ElementMethod.perform_genXml harguments]
  cases Xml.document (heap.lend this) this element <;> rfl

theorem Xml.message_offence (chain : List Handle) : (Xml.offence chain).message =
    if chain.Nodup then "elements are nested deeper than 256" else "element contains itself" := by
  rw [Xml.offence, apply_ite Xml.WriteError.message]
  rfl

theorem Xml.follows_document (hclosed : Xml.Closed heap)
    (hthis : heap.get? this = some (.element element)) :
    Xml.Follows heap [] this (Xml.document (heap.lend this) this element) := by
  rw [Xml.document_eq]
  exact Xml.follows_writeAt hclosed hthis (List.nodup_singleton this) List.mem_cons_self
    (Nat.zero_add Xml.maxDepth)

/-- A document can be written just if no chain of elements from its own element down has an element
twice or is too long. If there are such chains, one of them comes first, and its error is that of
the document. -/
theorem Heap.genXml_follows_chains (hclosed : Xml.Closed heap)
    (hthis : heap.get? this = some (.element element)) (catalog : NodeCatalog) {method : String}
    (hmethod : Name.key method = "genxml") {arguments : List Value}
    (harguments : arguments = [] ∨ ∃ header, arguments = [.boolean header]) :
    ((∃ text, (heap.callMethod catalog this method arguments).result = .ok (.text text)) ↔
      ∀ places chain, Xml.chain? heap this places = some chain → ¬ Xml.Offends chain) ∧
    ((∃ places chain, Xml.chain? heap this places = some chain ∧ Xml.Offends chain) →
      ∃ places chain, Xml.First heap Xml.Offends this places chain) ∧
    ∀ places chain, Xml.First heap Xml.Offends this places chain →
      (heap.callMethod catalog this method arguments).result = .error (.failed "genxml"
        (if chain.Nodup then "elements are nested deeper than 256"
          else "element contains itself")) := by
  obtain ⟨header, hheader⟩ :
      ∃ header, arguments = [] ∧ header = true ∨ arguments = [.boolean header] := by
    rcases harguments with hnone | ⟨header, hsome⟩
    · exact ⟨true, .inl ⟨hnone, rfl⟩⟩
    · exact ⟨header, .inr hsome⟩
  have hfollows := Xml.follows_document hclosed hthis
  rw [Heap.result_genXml hthis catalog hmethod hheader]
  cases hdocument : Xml.document (heap.lend this) this element with
  | ok written =>
      rw [hdocument] at hfollows
      refine ⟨iff_of_true ⟨_, rfl⟩ hfollows, ?_, ?_⟩
      · rintro ⟨places, chain, hchain, hoffends⟩
        exact absurd hoffends (hfollows places chain hchain)
      · intro places chain hfirst
        exact absurd hfirst.holds (hfollows places chain hfirst.chain?_eq)
  | error e =>
      rw [hdocument] at hfollows
      obtain ⟨places, chain, hfirst, rfl⟩ := hfollows
      refine ⟨iff_of_false ?_ ?_, fun _ => ⟨places, chain, hfirst⟩, ?_⟩
      · rintro ⟨text, htext⟩
        cases htext
      · intro hclean
        exact hclean places chain hfirst.chain?_eq hfirst.holds
      · intro others other hother
        rw [hother.unique hfirst, ← Xml.message_offence]
        rfl

/-- An element of a feed. -/
def feedElement (index : Nat) : Handle := ⟨⟨1⟩, index, 0⟩

/-- A feed that holds an entry twice, and a list that holds the entry and the feed. -/
def feed : Heap where
  run := ⟨1⟩
  slots := #[
    { state := .occupied (.element ⟨"feed", .empty,
        .elements [feedElement 1, feedElement 1, feedElement 2]⟩) },
    { state := .occupied (.element ⟨"entry", .empty, .empty⟩) },
    { state := .occupied (.element ⟨"list", .empty,
        .elements [feedElement 1, feedElement 0]⟩) }]

theorem closed_feed : Xml.Closed feed := by
  intro handle element hget child hchild
  have hchildren : ∀ handle ∈ feed.handles, ∀ child ∈ Xml.childrenOf feed handle,
      child = feedElement 0 ∨ child = feedElement 1 ∨ child = feedElement 2 := by decide
  rw [← Xml.childrenOf_eq hget] at hchild
  rcases hchildren handle (Heap.mem_handles_of_get? hget) child hchild with rfl | rfl | rfl
  · exact ⟨_, rfl⟩
  · exact ⟨_, rfl⟩
  · exact ⟨_, rfl⟩

theorem Heap.genXml_follows_chains_feed : ∃ places chain,
    Xml.First feed Xml.Offends (feedElement 0) places chain ∧
    (feed.callMethod .empty (feedElement 0) "GenXML" [.boolean false]).result =
      .error (.failed "genxml" (if chain.Nodup then "elements are nested deeper than 256"
        else "element contains itself")) := by
  have hthis : feed.get? (feedElement 0) = some (.element _) := rfl
  have hmethod : Name.key "GenXML" = "genxml" := by simp [Name.key_eq_iff]
  obtain ⟨-, hfirst, hresult⟩ := Heap.genXml_follows_chains closed_feed hthis .empty hmethod
    (.inr ⟨false, rfl⟩)
  have hoffends : Xml.Offends [feedElement 0, feedElement 2, feedElement 0] := .inl (by decide)
  obtain ⟨places, chain, hchain⟩ := hfirst ⟨[2, 1], _, rfl, hoffends⟩
  exact ⟨places, chain, hchain, hresult places chain hchain⟩

end Call

end BrightScript
