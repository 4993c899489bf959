import Mathlib
import BrightScript.Method.Xml
import BrightScript.Text.NameTable

/-!
Documents as trees, and why a document can be read in one way only. A name ends where a character
comes that no name has, the value of an attribute ends at the first quote, and a text ends where the
first tag begins: quotes and brackets of attributes and texts are escaped, and what is escaped can
be told from markup and undone.
-/

namespace BrightScript.Xml

/-- Puts a text in place of each occurrence of a character. -/
def replaceEach (replaced : Char) (replacement : String) (text : String) : String :=
  String.ofList (text.toList.flatMap fun c => if c = replaced then replacement.toList else [c])

/-- A text with the characters that were escaped. -/
def unescapeChars : List Char → List Char
  | '&' :: 'a' :: 'm' :: 'p' :: ';' :: rest => '&' :: unescapeChars rest
  | '&' :: 'l' :: 't' :: ';' :: rest => '<' :: unescapeChars rest
  | '&' :: 'g' :: 't' :: ';' :: rest => '>' :: unescapeChars rest
  | '&' :: 'q' :: 'u' :: 'o' :: 't' :: ';' :: rest => '"' :: unescapeChars rest
  | c :: rest => c :: unescapeChars rest
  | [] => []

def unescape (text : String) : String := String.ofList (unescapeChars text.toList)

theorem escapeChar_eq (c : Char) : escapeChar c =
    if c = '&' then "&amp;".toList else if c = '<' then "&lt;".toList
    else if c = '>' then "&gt;".toList else if c = '"' then "&quot;".toList else [c] := by
  unfold escapeChar
  split
  · rfl
  · rfl
  · rfl
  · rfl
  · next hand hless hgreater hquote =>
      rw [if_neg hand, if_neg hless, if_neg hgreater, if_neg hquote]

/-- One pass does what the replacements do one after the other: no replacement puts in what a later
one replaces. -/
theorem escape_eq_replaceEach (text : String) :
    escape text = replaceEach '"' "&quot;" (replaceEach '>' "&gt;" (replaceEach '<' "&lt;"
      (replaceEach '&' "&amp;" text))) := by
  simp only [escape, replaceEach, String.toList_ofList, List.flatMap_assoc]
  refine congrArg (fun step => String.ofList (text.toList.flatMap step)) (funext fun c => ?_)
  rw [escapeChar_eq]
  by_cases hand : c = '&'
  · subst hand
    rfl
  by_cases hless : c = '<'
  · subst hless
    rfl
  by_cases hgreater : c = '>'
  · subst hgreater
    rfl
  simp only [if_neg hand, if_neg hless, if_neg hgreater, List.flatMap_singleton]

theorem unescapeChars_cons {c : Char} (hplain : c ≠ '&') (rest : List Char) :
    unescapeChars (c :: rest) = c :: unescapeChars rest := by
  rw [unescapeChars]
  all_goals
    rintro _ rfl
    exact absurd rfl hplain

theorem unescapeChars_escapeChar (c : Char) (rest : List Char) :
    unescapeChars (escapeChar c ++ rest) = c :: unescapeChars rest := by
  rw [escapeChar_eq]
  split
  · next hand =>
      subst hand
      rfl
  next hplain =>
  split
  · next hless =>
      subst hless
      rfl
  split
  · next hgreater =>
      subst hgreater
      rfl
  split
  · next hquote =>
      subst hquote
      rfl
  · exact unescapeChars_cons hplain rest

theorem unescape_escape (text : String) : unescape (escape text) = text := by
  have hchars : ∀ chars, unescapeChars (chars.flatMap escapeChar) = chars := by
    intro chars
    induction chars with
    | nil => rfl
    | cons c chars ih => rw [List.flatMap_cons, unescapeChars_escapeChar, ih]
  rw [unescape, escape, String.toList_ofList, hchars, String.ofList_toList]

theorem escape_injective : Function.Injective escape :=
  Function.LeftInverse.injective unescape_escape

theorem ne_of_mem_escape {text : String} {c : Char} (hmem : c ∈ (escape text).toList) :
    c ≠ '<' ∧ c ≠ '>' ∧ c ≠ '"' := by
  have hplain : ∀ source,
      (escapeChar source).all (fun c => decide (c ≠ '<' ∧ c ≠ '>' ∧ c ≠ '"')) = true := by
    intro source
    rw [escapeChar_eq]
    split
    · decide
    split
    · decide
    next hless =>
    split
    · decide
    next hgreater =>
    split
    · decide
    next hquote =>
      rw [List.all_cons, decide_eq_true ⟨hless, hgreater, hquote⟩]
      rfl
  rw [escape, String.toList_ofList, List.mem_flatMap] at hmem
  obtain ⟨source, -, hc⟩ := hmem
  exact of_decide_eq_true (List.all_eq_true.mp (hplain source) c hc)

/-- A character of the names of elements and attributes. -/
def isNameChar (c : Char) : Bool :=
  let isLetter := if c.toNat < 128 then c.isAlpha else Text.nameLetters.contains c
  let isNumber := if c.toNat < 128 then c.isDigit else Text.nameNumbers.contains c
  isLetter || isNumber || c == '_' || c == '-' || c == '.' || c == ':'

/-- A name that can be told from what stands around it. -/
structure IsName (name : String) : Prop where
  ne_empty : name ≠ ""
  isNameChar : ∀ c ∈ name.toList, isNameChar c = true

/-- The name of an element and its attributes, in order. -/
structure Tag where
  name : String
  attributes : List (String × String)

namespace Tag

/-- The name of the element and those of its attributes are names. -/
structure Legible (tag : Tag) : Prop where
  isName : IsName tag.name
  attributes : ∀ entry ∈ tag.attributes, IsName entry.1

/-- An attribute as it is written. -/
def attributeChars (entry : String × String) : List Char :=
  ' ' :: (entry.1.toList ++ '=' :: '"' :: ((escape entry.2).toList ++ ['"']))

/-- The tag that opens an element, up to its end. -/
def opening (tag : Tag) : List Char :=
  '<' :: (tag.name.toList ++ tag.attributes.flatMap attributeChars)

def closing (tag : Tag) : List Char := '<' :: '/' :: (tag.name.toList ++ ['>'])

end Tag

section Reading

variable {first second rest other : List Char} {stop last : Char}

theorem append_cons_inj {kind : Char → Prop} (hfirst : ∀ c ∈ first, kind c)
    (hsecond : ∀ c ∈ second, kind c) (hstop : ¬ kind stop) (hlast : ¬ kind last)
    (heq : first ++ stop :: rest = second ++ last :: other) :
    first = second ∧ stop = last ∧ rest = other := by
  induction first generalizing second with
  | nil =>
      cases second with
      | nil => simpa using heq
      | cons c second =>
          obtain ⟨rfl, -⟩ := List.cons.inj heq
          exact absurd (hsecond stop List.mem_cons_self) hstop
  | cons c first ih =>
      cases second with
      | nil =>
          obtain ⟨rfl, -⟩ := List.cons.inj heq
          exact absurd (hfirst c List.mem_cons_self) hlast
      | cons d second =>
          obtain ⟨rfl, htail⟩ := List.cons.inj heq
          obtain ⟨hfirst, hrest⟩ := ih (fun c hc => hfirst c (List.mem_cons_of_mem _ hc))
            (fun c hc => hsecond c (List.mem_cons_of_mem _ hc)) htail
          exact ⟨congrArg _ hfirst, hrest⟩

theorem attributes_inj {attributes others : List (String × String)}
    (hattributes : ∀ entry ∈ attributes, IsName entry.1)
    (hothers : ∀ entry ∈ others, IsName entry.1) (hstop : stop ≠ ' ') (hlast : last ≠ ' ')
    (heq : attributes.flatMap Tag.attributeChars ++ stop :: rest =
      others.flatMap Tag.attributeChars ++ last :: other) :
    attributes = others ∧ stop = last ∧ rest = other := by
  induction attributes generalizing others with
  | nil =>
      cases others with
      | nil => simpa using heq
      | cons entry others => exact absurd (List.cons.inj heq).1 hstop
  | cons entry attributes ih =>
      cases others with
      | nil => exact absurd (List.cons.inj heq).1.symm hlast
      | cons another others =>
          obtain ⟨hname, hattributes⟩ := List.forall_mem_cons.mp hattributes
          obtain ⟨hanother, hothers⟩ := List.forall_mem_cons.mp hothers
          simp only [List.flatMap_cons, Tag.attributeChars, List.cons_append, List.append_assoc,
            List.cons.injEq, true_and] at heq
          obtain ⟨hsame, -, hvalues⟩ := append_cons_inj hname.isNameChar hanother.isNameChar
            (by decide) (by decide) heq
          have hquotes : ∀ {text c}, c ∈ (escape text).toList → c ≠ '"' :=
            fun hc => (ne_of_mem_escape hc).2.2
          obtain ⟨hvalue, -, hbehind⟩ := append_cons_inj (fun _ => hquotes) (fun _ => hquotes)
            (by decide) (by decide) (List.cons.inj hvalues).2
          obtain ⟨rfl, hends⟩ := ih hattributes hothers hbehind
          have hpair : entry = another := Prod.ext (String.toList_injective hsame)
            (escape_injective (String.toList_injective hvalue))
          exact ⟨congrArg (· :: attributes) hpair, hends⟩

theorem exists_stop (attributes : List (String × String)) (hstop : isNameChar stop = false)
    (rest : List Char) :
    ∃ mark tail, attributes.flatMap Tag.attributeChars ++ stop :: rest = mark :: tail ∧
      ¬ isNameChar mark = true := by
  cases attributes with
  | nil => exact ⟨stop, rest, rfl, by simp [hstop]⟩
  | cons entry attributes => exact ⟨' ', _, rfl, by decide⟩

theorem opening_inj {tag another : Tag} (htag : tag.Legible) (hanother : another.Legible)
    (hstop : stop = '/' ∨ stop = '>') (hlast : last = '/' ∨ last = '>')
    (heq : tag.opening ++ stop :: rest = another.opening ++ last :: other) :
    tag = another ∧ stop = last ∧ rest = other := by
  have hmarks : ∀ {mark : Char}, mark = '/' ∨ mark = '>' →
      isNameChar mark = false ∧ mark ≠ ' ' := by
    rintro mark (rfl | rfl) <;> decide
  obtain ⟨tagMark, tagTail, htagTail, htagMark⟩ :=
    exists_stop tag.attributes (hmarks hstop).1 rest
  obtain ⟨anotherMark, anotherTail, hanotherTail, hanotherMark⟩ :=
    exists_stop another.attributes (hmarks hlast).1 other
  simp only [Tag.opening, List.cons_append, List.append_assoc, List.cons.injEq, true_and] at heq
  rw [htagTail, hanotherTail] at heq
  obtain ⟨hname, rfl, rfl⟩ := append_cons_inj htag.isName.isNameChar hanother.isName.isNameChar
    htagMark hanotherMark heq
  obtain ⟨hattributes, hends⟩ := attributes_inj htag.attributes hanother.attributes
    (hmarks hstop).2 (hmarks hlast).2 (htagTail.trans hanotherTail.symm)
  refine ⟨?_, hends⟩
  cases tag
  cases another
  rw [Tag.mk.injEq]
  exact ⟨String.toList_injective hname, hattributes⟩

end Reading

/-- An element with what stands in it. -/
inductive Tree where
  | empty (tag : Tag)
  | text (tag : Tag) (value : String)
  | elements (tag : Tag) (children : List Tree)

/-- An element with elements in it. Where there are none, a text without characters is written
just so. -/
def Tree.around (tag : Tag) : List Tree → Tree
  | [] => .text tag ""
  | child :: children => .elements tag (child :: children)

mutual

/-- The tree without empty lists of elements. -/
def Tree.merged : Tree → Tree
  | .empty tag => .empty tag
  | .text tag value => .text tag value
  | .elements tag children => .around tag (mergedAll children)

def mergedAll : List Tree → List Tree
  | [] => []
  | child :: children => child.merged :: mergedAll children

end

mutual

/-- All names in the tree are names. -/
def Tree.Legible : Tree → Prop
  | .empty tag => tag.Legible
  | .text tag _ => tag.Legible
  | .elements tag children => tag.Legible ∧ LegibleAll children

def LegibleAll : List Tree → Prop
  | [] => True
  | child :: children => child.Legible ∧ LegibleAll children

end

mutual

/-- The tree as it is written. -/
def Tree.chars : Tree → List Char
  | .empty tag => tag.opening ++ ['/', '>']
  | .text tag value => tag.opening ++ '>' :: ((escape value).toList ++ tag.closing)
  | .elements tag children => tag.opening ++ '>' :: (charsOfAll children ++ tag.closing)

def charsOfAll : List Tree → List Char
  | [] => []
  | child :: children => child.chars ++ charsOfAll children

end

theorem Tag.exists_opening {tag : Tag} (htag : tag.Legible) :
    ∃ c tail, tag.opening = '<' :: c :: tail ∧ c ≠ '/' := by
  cases hname : tag.name.toList with
  | nil => exact absurd (String.toList_injective hname) htag.isName.ne_empty
  | cons c chars =>
      have hc := htag.isName.isNameChar c (by rw [hname]; exact List.mem_cons_self)
      refine ⟨c, _, by rw [Tag.opening, hname]; rfl, ?_⟩
      rintro rfl
      exact absurd hc (by decide)

theorem Tree.exists_chars {tree : Tree} (htree : tree.Legible) :
    ∃ c tail, tree.chars = '<' :: c :: tail ∧ c ≠ '/' := by
  cases tree with
  | empty tag | text tag value =>
      rw [Tree.Legible] at htree
      obtain ⟨c, tail, hopening, hc⟩ := Tag.exists_opening htree
      exact ⟨c, _, by rw [Tree.chars, hopening]; rfl, hc⟩
  | elements tag children =>
      rw [Tree.Legible] at htree
      obtain ⟨c, tail, hopening, hc⟩ := Tag.exists_opening htree.1
      exact ⟨c, _, by rw [Tree.chars, hopening]; rfl, hc⟩

theorem Tree.chars_empty (tag : Tag) (rest : List Char) :
    (Tree.empty tag).chars ++ rest = tag.opening ++ '/' :: '>' :: rest := by
  simp [Tree.chars]

theorem Tree.chars_text (tag : Tag) (value : String) (rest : List Char) :
    (Tree.text tag value).chars ++ rest = tag.opening ++ '>' ::
      ((escape value).toList ++ '<' :: '/' :: (tag.name.toList ++ '>' :: rest)) := by
  simp [Tree.chars, Tag.closing]

theorem Tree.chars_elements (tag : Tag) (children : List Tree) (rest : List Char) :
    (Tree.elements tag children).chars ++ rest = tag.opening ++ '>' ::
      (charsOfAll children ++ '<' :: '/' :: (tag.name.toList ++ '>' :: rest)) := by
  simp [Tree.chars, Tag.closing]

section Reading

variable {rest other : List Char}

theorem escape_inj (value another : String)
    (heq : (escape value).toList ++ '<' :: rest = (escape another).toList ++ '<' :: other) :
    value = another ∧ rest = other := by
  obtain ⟨hvalue, -, hrest⟩ := append_cons_inj (fun c hc => (ne_of_mem_escape hc).1)
    (fun c hc => (ne_of_mem_escape hc).1) (not_not_intro rfl) (not_not_intro rfl) heq
  exact ⟨escape_injective (String.toList_injective hvalue), hrest⟩

/-- A text is written like elements only where it has no characters and there are no elements. -/
theorem escape_elements (value : String) {children : List Tree} (hchildren : LegibleAll children)
    (heq : (escape value).toList ++ '<' :: '/' :: rest =
      charsOfAll children ++ '<' :: '/' :: other) :
    value = "" ∧ children = [] ∧ rest = other := by
  cases children with
  | nil =>
      obtain ⟨hvalue, hrest⟩ := escape_inj value "" heq
      exact ⟨hvalue, rfl, (List.cons.inj hrest).2⟩
  | cons child children =>
      rw [LegibleAll] at hchildren
      obtain ⟨c, tail, hchars, hc⟩ := Tree.exists_chars hchildren.1
      rw [charsOfAll, hchars] at heq
      obtain ⟨-, hrest⟩ := escape_inj value "" heq
      exact absurd (List.cons.inj hrest).1.symm hc

theorem Tag.closing_inj {tag : Tag}
    (heq : tag.name.toList ++ '>' :: rest = tag.name.toList ++ '>' :: other) : rest = other :=
  (List.cons.inj (List.append_cancel_left heq)).2

end Reading

mutual

/-- Of two trees, each with something behind it, that are written the same, the trees are the same
but for empty lists of elements, and so is what is behind them. -/
theorem Tree.chars_inj (first second : Tree) {rest other : List Char} (hfirst : first.Legible)
    (hsecond : second.Legible) (heq : first.chars ++ rest = second.chars ++ other) :
    first.merged = second.merged ∧ rest = other := by
  -- the mark behind the name and the attributes tells the kinds of elements apart
  cases first with
  | empty tag =>
      cases second with
      | empty another =>
          rw [Tree.chars_empty, Tree.chars_empty] at heq
          obtain ⟨rfl, -, hrest⟩ := opening_inj hfirst hsecond (.inl rfl) (.inl rfl) heq
          exact ⟨rfl, (List.cons.inj hrest).2⟩
      | text another value =>
          rw [Tree.chars_empty, Tree.chars_text] at heq
          obtain ⟨-, hmark, -⟩ := opening_inj hfirst hsecond (.inl rfl) (.inr rfl) heq
          cases hmark
      | elements another children =>
          rw [Tree.chars_empty, Tree.chars_elements] at heq
          obtain ⟨-, hmark, -⟩ := opening_inj hfirst hsecond.1 (.inl rfl) (.inr rfl) heq
          cases hmark
  | text tag value =>
      cases second with
      | empty another =>
          rw [Tree.chars_text, Tree.chars_empty] at heq
          obtain ⟨-, hmark, -⟩ := opening_inj hfirst hsecond (.inr rfl) (.inl rfl) heq
          cases hmark
      | text another value =>
          rw [Tree.chars_text, Tree.chars_text] at heq
          obtain ⟨rfl, -, hbody⟩ := opening_inj hfirst hsecond (.inr rfl) (.inr rfl) heq
          obtain ⟨rfl, hclosing⟩ := escape_inj _ _ hbody
          exact ⟨rfl, Tag.closing_inj (List.cons.inj hclosing).2⟩
      | elements another children =>
          rw [Tree.chars_text, Tree.chars_elements] at heq
          obtain ⟨rfl, -, hbody⟩ := opening_inj hfirst hsecond.1 (.inr rfl) (.inr rfl) heq
          obtain ⟨rfl, rfl, hclosing⟩ := escape_elements _ hsecond.2 hbody
          exact ⟨rfl, Tag.closing_inj hclosing⟩
  | elements tag children =>
      cases second with
      | empty another =>
          rw [Tree.chars_elements, Tree.chars_empty] at heq
          obtain ⟨-, hmark, -⟩ := opening_inj hfirst.1 hsecond (.inr rfl) (.inl rfl) heq
          cases hmark
      | text another value =>
          rw [Tree.chars_elements, Tree.chars_text] at heq
          obtain ⟨rfl, -, hbody⟩ := opening_inj hfirst.1 hsecond (.inr rfl) (.inr rfl) heq
          obtain ⟨rfl, rfl, hclosing⟩ := escape_elements _ hfirst.2 hbody.symm
          exact ⟨rfl, (Tag.closing_inj hclosing).symm⟩
      | elements another others =>
          rw [Tree.chars_elements, Tree.chars_elements] at heq
          obtain ⟨rfl, -, hbody⟩ := opening_inj hfirst.1 hsecond.1 (.inr rfl) (.inr rfl) heq
          obtain ⟨hsame, hclosing⟩ := charsOfAll_inj children others hfirst.2 hsecond.2 hbody
          exact ⟨congrArg (Tree.around tag) hsame, Tag.closing_inj hclosing⟩

theorem charsOfAll_inj (firsts seconds : List Tree) {rest other : List Char}
    (hfirsts : LegibleAll firsts) (hseconds : LegibleAll seconds)
    (heq : charsOfAll firsts ++ '<' :: '/' :: rest = charsOfAll seconds ++ '<' :: '/' :: other) :
    mergedAll firsts = mergedAll seconds ∧ rest = other := by
  cases firsts with
  | nil =>
      obtain ⟨-, rfl, hrest⟩ := escape_elements "" hseconds heq
      exact ⟨rfl, hrest⟩
  | cons first firsts =>
      cases seconds with
      | nil =>
          obtain ⟨-, hnone, -⟩ := escape_elements "" hfirsts heq.symm
          cases hnone
      | cons second seconds =>
          simp only [charsOfAll, List.append_assoc] at heq
          obtain ⟨hsame, hbehind⟩ := Tree.chars_inj first second hfirsts.1 hseconds.1 heq
          obtain ⟨hothers, hrest⟩ := charsOfAll_inj firsts seconds hfirsts.2 hseconds.2 hbehind
          rw [mergedAll, mergedAll, hsame, hothers]
          exact ⟨rfl, hrest⟩

end

end BrightScript.Xml
