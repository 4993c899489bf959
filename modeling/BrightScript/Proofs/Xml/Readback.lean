import BrightScript.Proofs.Xml.Chains
import BrightScript.Proofs.Xml.Tree

namespace BrightScript

namespace Xml

/-- The tag of an element. -/
def tagOf (element : XmlElement) : Tag := ⟨element.name, element.attributes.entries⟩

theorem toList_attributes (element : XmlElement) :
    (attributes element).toList = element.attributes.entries.flatMap Tag.attributeChars := by
  rw [attributes, String.toList_join, List.flatMap_map]
  refine congrArg (element.attributes.entries.flatMap ·) (funext fun entry => ?_)
  simp [Tag.attributeChars]

theorem toList_opening (element : XmlElement) :
    ("<" ++ element.name ++ attributes element).toList = (tagOf element).opening := by
  simp [Tag.opening, tagOf, toList_attributes]

theorem toList_element (element : XmlElement) (inner : String) :
    ("<" ++ element.name ++ attributes element ++ ">" ++ inner ++ closing element).toList =
      (tagOf element).opening ++ '>' :: (inner.toList ++ (tagOf element).closing) := by
  have hclosing : (closing element).toList = (tagOf element).closing := by
    simp [closing, Tag.closing, tagOf]
  rw [String.toList_append, String.toList_append, String.toList_append, toList_opening, hclosing,
    List.append_assoc, List.append_assoc]
  rfl

mutual

/-- The tree that the element of a handle stands for. -/
inductive Unfolds (heap : Heap) : Handle → Tree → Prop
  | empty {handle : Handle} {element : XmlElement}
      (hget : heap.get? handle = some (.element element)) (hbody : element.body = .empty) :
      Unfolds heap handle (.empty (tagOf element))
  | text {handle : Handle} {element : XmlElement} {value : String}
      (hget : heap.get? handle = some (.element element)) (hbody : element.body = .text value) :
      Unfolds heap handle (.text (tagOf element) value)
  | elements {handle : Handle} {element : XmlElement} {children : List Handle} {trees : List Tree}
      (hget : heap.get? handle = some (.element element))
      (hbody : element.body = .elements children) (hchildren : UnfoldsAll heap children trees) :
      Unfolds heap handle (.elements (tagOf element) trees)

/-- The trees that the elements of handles stand for. -/
inductive UnfoldsAll (heap : Heap) : List Handle → List Tree → Prop
  | nil : UnfoldsAll heap [] []
  | cons {child : Handle} {tree : Tree} {children : List Handle} {trees : List Tree}
      (hchild : Unfolds heap child tree) (hchildren : UnfoldsAll heap children trees) :
      UnfoldsAll heap (child :: children) (tree :: trees)

end

mutual

theorem Unfolds.unique {heap : Heap} {handle : Handle} {first second : Tree}
    (hfirst : Unfolds heap handle first) (hsecond : Unfolds heap handle second) :
    first = second := by
  cases hfirst with
  | empty hget hbody =>
      cases hsecond with
      | empty hother => cases hget.symm.trans hother; rfl
      | text hother hvalue => cases hget.symm.trans hother; cases hbody.symm.trans hvalue
      | elements hother hothers => cases hget.symm.trans hother; cases hbody.symm.trans hothers
  | text hget hbody =>
      cases hsecond with
      | empty hother hnone => cases hget.symm.trans hother; cases hbody.symm.trans hnone
      | text hother hvalue =>
          cases hget.symm.trans hother
          cases hbody.symm.trans hvalue
          rfl
      | elements hother hothers => cases hget.symm.trans hother; cases hbody.symm.trans hothers
  | elements hget hbody hchildren =>
      cases hsecond with
      | empty hother hnone => cases hget.symm.trans hother; cases hbody.symm.trans hnone
      | text hother hvalue => cases hget.symm.trans hother; cases hbody.symm.trans hvalue
      | elements hother hothers htrees =>
          cases hget.symm.trans hother
          cases hbody.symm.trans hothers
          rw [hchildren.unique htrees]

theorem UnfoldsAll.unique {heap : Heap} {children : List Handle} {firsts seconds : List Tree}
    (hfirsts : UnfoldsAll heap children firsts) (hseconds : UnfoldsAll heap children seconds) :
    firsts = seconds := by
  cases hfirsts with
  | nil =>
      cases hseconds
      rfl
  | cons hchild hchildren =>
      cases hseconds with
      | cons hother hothers => rw [hchild.unique hother, hchildren.unique hothers]

end

/-- From an element, only elements are met on the way down through children, and all names in them
are names. -/
def Legible (heap : Heap) (this : Handle) : Prop :=
  ∀ handle, Relation.ReflTransGen (fun outer inner => inner ∈ childrenOf heap outer) this handle →
    ∃ element, heap.get? handle = some (.element element) ∧ (tagOf element).Legible

theorem Legible.child {heap : Heap} {this child : Handle} (hlegible : Legible heap this)
    (hchild : child ∈ childrenOf heap this) : Legible heap child :=
  fun handle hbelow => hlegible handle (.head hchild hbelow)

/-- A text is that of a tree with legible names, and the element of a handle stands for the tree. -/
def WrittenAs (heap : Heap) (handle : Handle) (text : String) : Prop :=
  ∃ tree, Unfolds heap handle tree ∧ tree.Legible ∧ text.toList = tree.chars

theorem exists_unfoldsAll {heap : Heap} {write : Handle → Except WriteError String}
    {children : List Handle} (hchildren : ∀ child ∈ children, ∀ text, write child = .ok text →
      WrittenAs heap child text)
    {texts : List String} (htexts : children.mapM write = .ok texts) :
    ∃ trees, UnfoldsAll heap children trees ∧ LegibleAll trees ∧
      (String.join texts).toList = charsOfAll trees := by
  induction children generalizing texts with
  | nil =>
      cases htexts
      exact ⟨[], .nil, trivial, rfl⟩
  | cons child children ih =>
      rw [List.mapM_cons] at htexts
      obtain ⟨text, htext, hrest⟩ := bind_eq_ok_iff.mp htexts
      obtain ⟨others, hothers, hjoined⟩ := bind_eq_ok_iff.mp hrest
      cases hjoined
      obtain ⟨hchild, hchildren⟩ := List.forall_mem_cons.mp hchildren
      obtain ⟨tree, htree, hlegible, hchars⟩ := hchild text htext
      obtain ⟨trees, htrees, hall, hjoin⟩ := ih hchildren hothers
      refine ⟨tree :: trees, .cons htree htrees, ⟨hlegible, hall⟩, ?_⟩
      rw [String.join_cons, String.toList_append, hchars, hjoin, charsOfAll]

section Document

variable {heap : Heap} {this : Handle} {depth : Nat} {around : List Handle} {text : String}

/-- What is out of the heap while it is written is not met again. -/
theorem writtenAs_of_writeChildAt {child : Handle} {inner : XmlElement}
    (hget : heap.get? child = some (.element inner)) (hthis : this ∈ around)
    (hinner : ∀ {text}, writeAt (heap.lend this) depth (child :: around) inner = .ok text →
      WrittenAs heap child text)
    (htext : writeChildAt (heap.lend this) (writeAt (heap.lend this) depth) around child =
      .ok text) : WrittenAs heap child text := by
  unfold writeChildAt at htext
  split at htext
  · cases htext
  next hfresh =>
    have hother : this ≠ child := by
      rintro rfl
      exact hfresh (List.contains_iff_mem.mpr hthis)
    rw [Heap.get?_lend, if_neg hother, hget] at htext
    exact hinner htext

theorem writtenAs_of_writeAt {handle : Handle} {element : XmlElement}
    (hlegible : Legible heap handle) (hget : heap.get? handle = some (.element element))
    (hthis : this ∈ handle :: around)
    (htext : writeAt (heap.lend this) depth (handle :: around) element = .ok text) :
    WrittenAs heap handle text := by
  -- each level is written with one level less
  induction depth generalizing around handle element text with
  | zero => cases htext
  | succ depth ih =>
      obtain ⟨_, hsame, htag⟩ := hlegible handle .refl
      cases hget.symm.trans hsame
      rw [writeAt] at htext
      cases hbody : element.body with
      | empty =>
          rw [hbody] at htext
          cases htext
          refine ⟨_, .empty hget hbody, htag, ?_⟩
          rw [String.toList_append, toList_opening, Tree.chars]
          rfl
      | text value =>
          rw [hbody] at htext
          cases htext
          refine ⟨_, .text hget hbody, htag, ?_⟩
          rw [toList_element, Tree.chars]
      | elements children =>
          rw [hbody] at htext
          obtain ⟨texts, htexts, hjoined⟩ := bind_eq_ok_iff.mp htext
          cases hjoined
          have hchildren : childrenOf heap handle = children := by
            rw [childrenOf_eq hget, XmlElement.children, hbody]
          have hwritten : ∀ child ∈ children, ∀ text, writeChildAt (heap.lend this)
              (writeAt (heap.lend this) depth) (handle :: around) child = .ok text →
              WrittenAs heap child text := by
            intro child hchild text htext
            have hbelow : Legible heap child := hlegible.child (hchildren ▸ hchild)
            obtain ⟨inner, hinner, -⟩ := hbelow child .refl
            exact writtenAs_of_writeChildAt hinner hthis
              (ih hbelow hinner (List.mem_cons_of_mem child hthis)) htext
          obtain ⟨trees, htrees, hall, hchars⟩ := exists_unfoldsAll hwritten htexts
          refine ⟨_, .elements hget hbody htrees, ⟨htag, hall⟩, ?_⟩
          rw [toList_element, hchars, Tree.chars]

theorem writtenAs_of_genXml (hlegible : Legible heap this) {catalog : NodeCatalog}
    {method : String} (hmethod : Name.key method = "genxml")
    (htext : (heap.callMethod catalog this method [.boolean false]).result = .ok (.text text)) :
    WrittenAs heap this text := by
  obtain ⟨element, hthis, -⟩ := hlegible this .refl
  rw [Heap.result_genXml hthis catalog hmethod (.inr rfl), document_eq] at htext
  cases hwritten : writeAt (heap.lend this) maxDepth [this] element with
  | error e =>
      rw [hwritten] at htext
      cases htext
  | ok written =>
      rw [hwritten] at htext
      cases htext
      exact writtenAs_of_writeAt hlegible hthis List.mem_cons_self hwritten

end Document

end Xml

/-- The text of a document determines its tree, but that an empty text and an empty list of elements
are written the same. For escaping is one substitution of characters that can be undone, and leaves
nothing that is taken for markup. -/
theorem Heap.genXml_determines_tree {first second : Heap} {this other : Handle}
    (hfirst : Xml.Legible first this) (hsecond : Xml.Legible second other)
    (catalog another : NodeCatalog) {method same : String} (hmethod : Name.key method = "genxml")
    (hsame : Name.key same = "genxml") {text : String}
    (htext : (first.callMethod catalog this method [.boolean false]).result = .ok (.text text))
    (hagain : (second.callMethod another other same [.boolean false]).result = .ok (.text text)) :
    (∃ tree, Xml.Unfolds first this tree) ∧ (∃ tree, Xml.Unfolds second other tree) ∧
    (∀ tree copy, Xml.Unfolds first this tree → Xml.Unfolds second other copy →
      tree.merged = copy.merged) ∧
    ∀ value : String,
      Xml.escape value = Xml.replaceEach '"' "&quot;" (Xml.replaceEach '>' "&gt;"
        (Xml.replaceEach '<' "&lt;" (Xml.replaceEach '&' "&amp;" value))) ∧
      Xml.unescape (Xml.escape value) = value ∧
      ∀ c ∈ (Xml.escape value).toList, c ≠ '<' ∧ c ≠ '>' ∧ c ≠ '"' := by
  obtain ⟨tree, htree, hlegible, hchars⟩ := Xml.writtenAs_of_genXml hfirst hmethod htext
  obtain ⟨copy, hcopy, hreadable, hcopied⟩ := Xml.writtenAs_of_genXml hsecond hsame hagain
  have hmerged : tree.merged = copy.merged :=
    (Xml.Tree.chars_inj tree copy hlegible hreadable
      (congrArg (· ++ []) (hchars.symm.trans hcopied))).1
  refine ⟨⟨tree, htree⟩, ⟨copy, hcopy⟩, fun unfolded others hunfolded hothers => ?_, fun value =>
    ⟨Xml.escape_eq_replaceEach value, Xml.unescape_escape value, fun c => Xml.ne_of_mem_escape⟩⟩
  rwa [hunfolded.unique htree, hothers.unique hcopy]

/-- An element of a note. -/
def noteElement (index : Nat) : Handle := ⟨⟨2⟩, index, 0⟩

/-- A note with an element in it that has the given body. The value of its attribute looks like
markup. -/
def note (body : XmlBody) : Heap where
  run := ⟨2⟩
  slots := #[
    { state := .occupied (.element
        ⟨"note", ⟨[("kind", "\"/><to>&lt;")]⟩, .elements [noteElement 1]⟩) },
    { state := .occupied (.element ⟨"to", .empty, body⟩) }]

theorem legible_note {body : XmlBody} (hbody : XmlElement.children ⟨"to", .empty, body⟩ = []) :
    Xml.Legible (note body) (noteElement 0) := by
  have hnote : Xml.IsName "note" := ⟨by decide, List.all_eq_true.mp (by decide)⟩
  have hkind : Xml.IsName "kind" := ⟨by decide, List.all_eq_true.mp (by decide)⟩
  have hto : Xml.IsName "to" := ⟨by decide, List.all_eq_true.mp (by decide)⟩
  intro handle hbelow
  have hmet : handle = noteElement 0 ∨ handle = noteElement 1 := by
    induction hbelow with
    | refl => exact .inl rfl
    | tail _ hstep ih =>
        rcases ih with rfl | rfl
        · exact .inr (List.mem_singleton.mp hstep)
        · have hnone : Xml.childrenOf (note body) (noteElement 1) = [] := hbody
          rw [hnone] at hstep
          cases hstep
  rcases hmet with rfl | rfl
  · exact ⟨_, rfl, hnote, List.forall_mem_singleton.mpr hkind⟩
  · exact ⟨_, rfl, hto, List.forall_mem_nil _⟩

/-- An element with an empty text is written like one with an empty list of elements. -/
theorem Heap.genXml_determines_tree_note :
    ((note (.text "")).callMethod .empty (noteElement 0) "GenXML" [.boolean false]).result =
      .ok (.text "<note kind=\"&quot;/&gt;&lt;to&gt;&amp;lt;\"><to></to></note>") ∧
    ∃ tree copy, Xml.Unfolds (note (.text "")) (noteElement 0) tree ∧
      Xml.Unfolds (note (.elements [])) (noteElement 0) copy ∧ tree.merged = copy.merged := by
  have hmethod : Name.key "GenXML" = "genxml" := by simp [Name.key_eq_iff]
  have hwritten : ∀ body ∈ [XmlBody.text "", .elements []],
      ((note body).callMethod .empty (noteElement 0) "GenXML" [.boolean false]).result =
        .ok (.text "<note kind=\"&quot;/&gt;&lt;to&gt;&amp;lt;\"><to></to></note>") := by
    decide +kernel
  have htext := hwritten (.text "") (by decide)
  have hagain := hwritten (.elements []) (by decide)
  obtain ⟨⟨tree, htree⟩, ⟨copy, hcopy⟩, hmerged, -⟩ := Heap.genXml_determines_tree
    (legible_note rfl) (legible_note rfl) .empty .empty hmethod hmethod htext hagain
  exact ⟨htext, tree, copy, htree, hcopy, hmerged tree copy htree hcopy⟩

end BrightScript
