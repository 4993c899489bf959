import BrightScript.Proofs.Text.LetterCase
import BrightScript.Proofs.Token.Coverage

namespace BrightScript

/-- The characters form a word: a letter or an underscore, and then letters, digits and
underscores. -/
def IsWord (chars : List Char) : Prop :=
  ∃ first rest, chars = first :: rest ∧ Scanner.isWordStart first ∧
    ∀ c ∈ rest, Scanner.isWordChar c

/-- An optional type mark. -/
def IsSuffix (chars : List Char) : Prop :=
  chars = [] ∨ ∃ mark, chars = [mark] ∧ Scanner.isTypeMark mark

/-- The tokens that can be written down: all but comments and floating-point numbers, where
integers are not negative, texts have no line breaks, directives are words in lower case, and
identifiers are words with an optional type mark, where the word is not reserved and not `rem`. -/
def Token.IsSpellable : Token → Prop
  | .symbol _ | .keyword _ | .newline => True
  | .integer value => 0 ≤ value
  | .text value => ∀ c ∈ value.toList, c ≠ '\n' ∧ c ≠ '\r'
  | .directive name => IsWord name.toList ∧ Name.key name = name
  | .identifier name => ∃ stem suffix, name = String.ofList (stem ++ suffix) ∧ IsWord stem ∧
      IsSuffix suffix ∧ Keyword.ofWord? (String.ofList stem) = none ∧
      Name.key (String.ofList stem) ≠ "rem"
  | .float _ | .comment => False

/-- The digits write a number in hexadecimal, in any letter case and perhaps after zeros. -/
def WritesHex (digits : List Char) (number : Nat) : Prop :=
  ∃ zeros, digits.map Char.toLower = List.replicate zeros '0' ++ Nat.toDigits 16 number

def doubled (chars : List Char) : List Char :=
  chars.flatMap fun c => if c = '"' then ['"', '"'] else [c]

/-- The ways in which a token is written. -/
def Token.Spelled : Token → String → Prop
  | .symbol mark, spelling => spelling = mark.text
  | .keyword word, spelling => Name.key spelling = word.text
  | .integer value, spelling => spelling = toString value.toNatClampNeg ∨
      ∃ mark digits, spelling = String.ofList ('&' :: mark :: digits) ∧ (mark = 'h' ∨ mark = 'H') ∧
        WritesHex digits value.toNatClampNeg
  | .text value, spelling => spelling = String.ofList ('"' :: (doubled value.toList ++ ['"']))
  | .identifier name, spelling => spelling = name
  | .directive name, spelling => spelling = "#" ++ name
  | .newline, spelling => spelling = "\n"
  | .float _, _ | .comment, _ => False

theorem Keyword.key_text (word : Keyword) : Name.key word.text = word.text := by
  cases word <;> decide +kernel

theorem Token.exists_spelled {token : Token} (h : token.IsSpellable) :
    ∃ spelling, token.Spelled spelling := by
  cases token with
  | symbol mark => exact ⟨_, rfl⟩
  | keyword word => exact ⟨_, word.key_text⟩
  | integer value => exact ⟨_, .inl rfl⟩
  | text value => exact ⟨_, rfl⟩
  | identifier name => exact ⟨_, rfl⟩
  | directive name => exact ⟨_, rfl⟩
  | newline => exact ⟨_, rfl⟩
  | float value => exact h.elim
  | comment => exact h.elim

theorem Token.exists_spelled_all {tokens : List Token} (h : ∀ token ∈ tokens, token.IsSpellable) :
    ∃ spellings, List.Forall₂ Token.Spelled tokens spellings := by
  induction tokens with
  | nil => exact ⟨[], .nil⟩
  | cons token rest ih =>
      obtain ⟨htoken, hrest⟩ := List.forall_mem_cons.mp h
      obtain ⟨spelling, hspelling⟩ := exists_spelled htoken
      obtain ⟨spellings, hspellings⟩ := ih hrest
      exact ⟨spelling :: spellings, .cons hspelling hspellings⟩

namespace Scanner

/-- The text ends, or a space follows. -/
def IsBreak (after : List Char) : Prop := after = [] ∨ ∃ rest, after = ' ' :: rest

section Runs

variable {p : Char → Bool} {run after : List Char}

theorem takeWhile_run (hrun : ∀ c ∈ run, p c) (hafter : ∀ c ∈ after.head?, p c = false) :
    (run ++ after).takeWhile p = run := by
  have hstop : after.takeWhile p = [] := by
    cases after with
    | nil => rfl
    | cons c rest => simp [hafter c rfl]
  rw [List.takeWhile_append_of_pos hrun, hstop, List.append_nil]

theorem dropWhile_run (hrun : ∀ c ∈ run, p c) (hafter : ∀ c ∈ after.head?, p c = false) :
    (run ++ after).dropWhile p = after := by
  rw [List.dropWhile_append_of_pos hrun]
  cases after with
  | nil => rfl
  | cons c rest => simp [hafter c rfl]

theorem IsBreak.head {after : List Char} (h : IsBreak after) (hp : p ' ' = false) :
    ∀ c ∈ after.head?, p c = false := by
  rcases h with rfl | ⟨rest, rfl⟩
  · simp
  · simpa using hp

end Runs

theorem token_symbol (mark : Symbol) {after : List Char} (h : IsBreak after) :
    token (mark.text.toList ++ after) = .hit (.symbol mark) mark.text.toList after := by
  rcases h with rfl | ⟨rest, rfl⟩ <;> cases mark <;> rfl

theorem token_newline (after : List Char) :
    token ('\n' :: after) = .hit .newline ['\n'] after := rfl

theorem isWordChar_of_isWordStart {c : Char} (h : isWordStart c) : isWordChar c := by
  simp only [isWordStart, isWordChar, Char.isAlphanum, Bool.or_eq_true] at h ⊢
  exact h.imp_left .inl

theorem isWordChar_of_isWord {chars : List Char} (h : IsWord chars) :
    ∀ c ∈ chars, isWordChar c := by
  obtain ⟨first, rest, rfl, hfirst, hrest⟩ := h
  exact List.forall_mem_cons.mpr ⟨isWordChar_of_isWordStart hfirst, hrest⟩

theorem isAlpha_of_key {spelling text : String} (hkey : Name.key spelling = text)
    (htext : ∀ c ∈ text.toList, c.isLower) : ∀ c ∈ spelling.toList, c.isAlpha := by
  intro c hc
  rw [← c.isLower_toLower_eq_isAlpha]
  apply htext
  rw [← hkey, Name.toList_key]
  exact List.mem_map_of_mem hc

theorem isWordChar_of_isAlpha {c : Char} (h : c.isAlpha) : isWordChar c := by
  simp [isWordChar, Char.isAlphanum, h]

theorem eq_rem_of_key {r e m : Char} {stem rest after : List Char}
    (hkey : Name.key (String.ofList [r, e, m]) = "rem")
    (hrest : ∀ c ∈ rest.head?, isWordChar c = false) (hstem : ∀ c ∈ stem, isWordChar c)
    (hafter : ∀ c ∈ after.head?, isWordChar c = false)
    (hsame : stem ++ after = r :: e :: m :: rest) : stem = [r, e, m] := by
  have hletters : ∀ c ∈ [r, e, m], isWordChar c := by
    have halpha := isAlpha_of_key hkey (List.all_eq_true.mp rfl)
    rw [String.toList_ofList] at halpha
    exact fun c hc => isWordChar_of_isAlpha (halpha c hc)
  calc stem = (stem ++ after).takeWhile isWordChar := (takeWhile_run hstem hafter).symm
    _ = ([r, e, m] ++ rest).takeWhile isWordChar := by rw [hsame]; rfl
    _ = [r, e, m] := takeWhile_run hletters hrest

/-- A word with its type mark is not taken for a comment unless it is `rem`. -/
theorem wordOrComment_word {stem suffix after : List Char} (hstem : IsWord stem)
    (hsuffix : IsSuffix suffix) (hrem : Name.key (String.ofList stem) ≠ "rem")
    (hafter : IsBreak after) :
    wordOrComment (stem ++ (suffix ++ after)) =
      .hit (wordToken (String.ofList (stem ++ suffix))) (stem ++ suffix) after := by
  have hchars := isWordChar_of_isWord hstem
  have hhead : ∀ c ∈ (suffix ++ after).head?, isWordChar c = false := by
    rcases hsuffix with rfl | ⟨mark, rfl, hmark⟩
    · exact hafter.head rfl
    · rintro c hc
      obtain rfl := Option.some.inj hc
      simp only [isTypeMark, Bool.or_eq_true, beq_iff_eq] at hmark
      rcases hmark with (((rfl | rfl) | rfl) | rfl) | rfl <;> rfl
  have hmark : typeMark (suffix ++ after) = suffix := by
    rcases hsuffix with rfl | ⟨mark, rfl, hmark⟩
    · rcases hafter with rfl | ⟨rest, rfl⟩ <;> rfl
    · exact if_pos hmark
  have hword : word (stem ++ (suffix ++ after)) =
      .hit (wordToken (String.ofList (stem ++ suffix))) (stem ++ suffix) after := by
    simp only [word, takeWhile_run hchars hhead, dropWhile_run hchars hhead, hmark,
      List.drop_left]
  unfold wordOrComment
  split
  · rename_i r e m rest hsame
    split
    · rename_i hcomment
      rw [Bool.and_eq_true, decide_eq_true_eq, Bool.not_eq_true'] at hcomment
      have hrest : ∀ c ∈ rest.head?, isWordChar c = false := by
        intro c hc
        have hnone := hcomment.2
        rw [hc] at hnone
        simpa using hnone
      rw [eq_rem_of_key hcomment.1 hrest hchars hhead hsame] at hrem
      exact absurd hcomment.1 hrem
    · exact hword
  · exact hword

theorem isDigit_of_isWordStart {c : Char} (h : isWordStart c) : c.isDigit = false := by
  simp only [isWordStart, Char.isAlpha, Char.isUpper, Char.isLower, Bool.or_eq_true,
    Bool.and_eq_true, decide_eq_true_eq, beq_iff_eq] at h
  simp only [Char.isDigit, Bool.and_eq_false_iff, decide_eq_false_iff_not]
  refine .inr fun hle => ?_
  rcases h with (h | h) | rfl
  · exact absurd (UInt32.le_trans h.1 hle) (by decide)
  · exact absurd (UInt32.le_trans h.1 hle) (by decide)
  · exact absurd hle (by decide)

theorem token_of_isWordChar {c : Char} (rest : List Char) (h : isWordChar c) :
    token (c :: rest) = if c.isDigit then number (c :: rest) else wordOrComment (c :: rest) := by
  have hother : ∀ mark : Char, isWordChar mark = false → (c == mark) = false := by
    intro mark hmark
    refine beq_eq_false_iff_ne.mpr fun hsame => ?_
    rw [hsame, hmark] at h
    cases h
  simp only [token, hother '\'' rfl, hother '#' rfl, hother '&' rfl, hother '"' rfl,
    Bool.false_eq_true, if_false]
  refine ite_congr rfl (fun _ => rfl) fun hdigit => if_pos ?_
  simpa [isWordChar, isWordStart, Char.isAlphanum, hdigit] using h

theorem token_word {stem suffix after : List Char} (hstem : IsWord stem)
    (hsuffix : IsSuffix suffix) (hrem : Name.key (String.ofList stem) ≠ "rem")
    (hafter : IsBreak after) :
    token (stem ++ (suffix ++ after)) =
      .hit (wordToken (String.ofList (stem ++ suffix))) (stem ++ suffix) after := by
  rw [← wordOrComment_word hstem hsuffix hrem hafter]
  obtain ⟨first, rest, rfl, hfirst, -⟩ := hstem
  rw [List.cons_append, token_of_isWordChar _ (isWordChar_of_isWordStart hfirst),
    isDigit_of_isWordStart hfirst]
  rfl

theorem ofWord?_eq_some_iff {spelling : String} {word : Keyword} :
    Keyword.ofWord? spelling = some word ↔ Name.key spelling = word.text := by
  constructor
  · intro h
    have hfound := List.find?_some (p := fun word : Keyword => word.text == Name.key spelling) h
    exact (eq_of_beq hfound).symm
  · intro h
    unfold Keyword.ofWord?
    rw [h]
    cases word <;> rfl

theorem isLower_keyword (word : Keyword) : ∀ c ∈ word.text.toList, c.isLower :=
  List.all_eq_true.mp (by cases word <;> rfl)

theorem ofWord?_suffix {stem suffix : List Char} (hsuffix : IsSuffix suffix)
    (hstem : Keyword.ofWord? (String.ofList stem) = none) :
    Keyword.ofWord? (String.ofList (stem ++ suffix)) = none := by
  rcases hsuffix with rfl | ⟨mark, rfl, hmark⟩
  · rwa [List.append_nil]
  · refine Option.eq_none_iff_forall_ne_some.mpr fun word hword => ?_
    have halpha := isAlpha_of_key (ofWord?_eq_some_iff.mp hword) (isLower_keyword word) mark
      (by simp)
    simp only [isTypeMark, Bool.or_eq_true, beq_iff_eq] at hmark
    rcases hmark with (((rfl | rfl) | rfl) | rfl) | rfl <;> cases halpha

theorem token_keyword {word : Keyword} {spelling : String} {after : List Char}
    (hspelling : Name.key spelling = word.text) (hafter : IsBreak after) :
    token (spelling.toList ++ after) = .hit (.keyword word) spelling.toList after := by
  have halpha := isAlpha_of_key hspelling (isLower_keyword word)
  have hword : IsWord spelling.toList := by
    cases hchars : spelling.toList with
    | nil =>
        have hempty := congrArg String.toList hspelling
        rw [Name.toList_key, hchars] at hempty
        cases word <;> cases hempty
    | cons first rest =>
        rw [hchars, List.forall_mem_cons] at halpha
        refine ⟨first, rest, rfl, by simp [isWordStart, halpha.1], fun c hc => ?_⟩
        exact isWordChar_of_isAlpha (halpha.2 c hc)
  have hrem : Name.key (String.ofList spelling.toList) ≠ "rem" := by
    rw [String.ofList_toList, hspelling]
    cases word <;> decide
  have htoken := token_word hword (.inl rfl) hrem hafter
  rw [List.append_nil, List.nil_append, String.ofList_toList] at htoken
  rw [htoken, wordToken, ofWord?_eq_some_iff.mpr hspelling]

theorem token_identifier {stem suffix after : List Char} (hstem : IsWord stem)
    (hsuffix : IsSuffix suffix) (hreserved : Keyword.ofWord? (String.ofList stem) = none)
    (hrem : Name.key (String.ofList stem) ≠ "rem") (hafter : IsBreak after) :
    token ((stem ++ suffix) ++ after) =
      .hit (.identifier (String.ofList (stem ++ suffix))) (stem ++ suffix) after := by
  rw [List.append_assoc, token_word hstem hsuffix hrem hafter, wordToken,
    ofWord?_suffix hsuffix hreserved]

theorem token_directive (name : List Char) {after : List Char} (hname : IsWord name)
    (hkey : Name.key (String.ofList name) = String.ofList name) (hafter : IsBreak after) :
    token ('#' :: (name ++ after)) =
      .hit (.directive (String.ofList name)) ('#' :: name) after := by
  have hchars := isWordChar_of_isWord hname
  have hhead := hafter.head (p := isWordChar) rfl
  have htoken : token ('#' :: (name ++ after)) = directive (name ++ after) := rfl
  have hstart : (name ++ after).head?.any isWordStart := by
    obtain ⟨first, rest, rfl, hfirst, -⟩ := hname
    exact hfirst
  rw [htoken, directive, if_pos hstart]
  dsimp only
  rw [takeWhile_run hchars hhead, dropWhile_run hchars hhead, hkey]

theorem quoted_cons {c : Char} (value taken rest : List Char) (hquote : c ≠ '"')
    (hend : isLineEnd c = false) :
    quoted value taken (c :: rest) = quoted (c :: value) (c :: taken) rest := by
  rw [quoted, hend]
  · rfl
  · rintro tail rfl
    exact absurd rfl hquote
  · exact hquote

theorem quoted_doubled (value taken chars : List Char) {after : List Char}
    (hchars : ∀ c ∈ chars, c ≠ '\n' ∧ c ≠ '\r') (hafter : IsBreak after) :
    quoted value taken (doubled chars ++ '"' :: after) =
      .hit (.text (String.ofList (value.reverse ++ chars)))
        (taken.reverse ++ (doubled chars ++ ['"'])) after := by
  induction chars generalizing value taken with
  | nil =>
      rcases hafter with rfl | ⟨rest, rfl⟩ <;> simp [doubled, quoted]
  | cons c rest ih =>
      obtain ⟨hc, hrest⟩ := List.forall_mem_cons.mp hchars
      by_cases hquote : c = '"'
      · subst hquote
        have hnext := ih ('"' :: value) ('"' :: '"' :: taken) hrest
        simpa [doubled, quoted] using hnext
      · have hnext := ih (c :: value) (c :: taken) hrest
        have hend : isLineEnd c = false := by simp [isLineEnd, hc]
        rw [doubled, List.flatMap_cons, if_neg hquote, List.singleton_append, List.cons_append,
          quoted_cons _ _ _ hquote hend]
        simpa [doubled] using hnext

theorem token_text {value : String} {after : List Char}
    (hvalue : ∀ c ∈ value.toList, c ≠ '\n' ∧ c ≠ '\r') (hafter : IsBreak after) :
    token ('"' :: (doubled value.toList ++ ['"']) ++ after) =
      .hit (.text value) ('"' :: (doubled value.toList ++ ['"'])) after := by
  have hquoted := quoted_doubled [] ['"'] value.toList hvalue hafter
  rw [List.reverse_nil, List.nil_append, String.ofList_toList] at hquoted
  rw [List.cons_append, List.append_assoc]
  exact hquoted

theorem readDigits_toDigits (number : Nat) :
    Decimal.readDigits 0 (Nat.toDigits 10 number) = number := by
  have hread := Nat.ofDigitChars_ten_toDigits (n := number)
  rwa [Nat.ofDigitChars_eq_foldl] at hread

theorem head?_toDigits {number : Nat} (h : (Nat.toDigits 10 number).head? = some '0') :
    number = 0 := by
  -- without its last digit a number has the same first one
  induction number using Nat.strongRecOn with
  | ind number ih =>
      rw [Nat.toDigits_eq_if (by decide)] at h
      split at h
      · rename_i hsmall
        exact Nat.digitChar_eq_zero.mp (Option.some.inj h)
      · rename_i hlarge
        rw [List.head?_append_of_ne_nil _ Nat.toDigits_ne_nil] at h
        have hzero := ih (number / 10) (by omega) h
        omega

theorem wholeDigits_toDigits (number : Nat) {after : List Char} (hafter : IsBreak after) :
    wholeDigits (Nat.toDigits 10 number ++ after) = Nat.toDigits 10 number := by
  by_cases hzero : number = 0
  · subst hzero
    rw [Nat.toDigits_zero]
    rfl
  · have hdigits : ∀ c ∈ Nat.toDigits 10 number, c.isDigit :=
      fun c => Nat.isDigit_of_mem_toDigits (by decide) (by decide)
    unfold wholeDigits
    split
    · rename_i rest hsame
      refine absurd (head?_toDigits ?_) hzero
      rw [← List.head?_append_of_ne_nil _ Nat.toDigits_ne_nil, hsame]
      rfl
    · exact takeWhile_run hdigits (hafter.head rfl)

theorem number_toDigits {value : Int64} {after : List Char} (hvalue : 0 ≤ value)
    (hafter : IsBreak after) :
    number (Nat.toDigits 10 value.toNatClampNeg ++ after) =
      .hit (.integer value) (Nat.toDigits 10 value.toNatClampNeg) after := by
  have hbound : value.toNatClampNeg < integerBound := value.toNatClampNeg_lt
  have hinteger : ∀ reach, integer (Nat.toDigits 10 value.toNatClampNeg) after reach =
      .hit (.integer value) (Nat.toDigits 10 value.toNatClampNeg) after := by
    intro reach
    simp only [integer, readDigits_toDigits, hbound, if_true,
      Int64.ofNat_toNatClampNeg value hvalue]
  unfold number
  dsimp only
  rw [wholeDigits_toDigits value.toNatClampNeg hafter, List.drop_left]
  rcases hafter with rfl | ⟨rest, rfl⟩
  · exact hinteger _
  · exact hinteger _

theorem token_decimal {value : Int64} {after : List Char} (hvalue : 0 ≤ value)
    (hafter : IsBreak after) :
    token (Nat.toDigits 10 value.toNatClampNeg ++ after) =
      .hit (.integer value) (Nat.toDigits 10 value.toNatClampNeg) after := by
  rw [← number_toDigits hvalue hafter]
  have hdigits : ∀ c ∈ Nat.toDigits 10 value.toNatClampNeg, c.isDigit :=
    fun c => Nat.isDigit_of_mem_toDigits (by decide) (by decide)
  obtain ⟨first, rest, hchars⟩ := List.exists_cons_of_ne_nil
    (Nat.toDigits_ne_nil (n := value.toNatClampNeg) (b := 10))
  rw [hchars] at hdigits ⊢
  have hfirst := hdigits first List.mem_cons_self
  rw [List.cons_append, token_of_isWordChar _ (by simp [isWordChar, Char.isAlphanum, hfirst]),
    if_pos hfirst]

theorem hexDigit_of_toLower {c : Char} {number : Nat} (hnumber : number < 16)
    (h : c.toLower = number.digitChar) : isHexDigit c ∧ hexValue c = number := by
  by_cases hupper : c.isUpper
  · have hc : c = number.digitChar.toUpper := by
      rw [← h, c.toUpper_toLower_eq_toUpper,
        Char.toUpper_eq_of_not_isLower (Char.not_isLower_of_isUpper hupper)]
    rw [hc]
    interval_cases number <;> exact ⟨rfl, rfl⟩
  · rw [Char.toLower_eq_of_not_isUpper hupper] at h
    rw [h]
    interval_cases number <;> exact ⟨rfl, rfl⟩

theorem exists_of_mem_toDigits {number : Nat} {c : Char} (h : c ∈ Nat.toDigits 16 number) :
    ∃ digit < 16, c = Nat.digitChar digit := by
  induction number using Nat.strongRecOn with
  | ind number ih =>
      rw [Nat.toDigits_eq_if (by decide)] at h
      split at h
      · rename_i hsmall
        exact ⟨number, hsmall, List.mem_singleton.mp h⟩
      · rename_i hlarge
        rcases List.mem_append.mp h with h | h
        · exact ih (number / 16) (by omega) h
        · exact ⟨number % 16, Nat.mod_lt _ (by decide), List.mem_singleton.mp h⟩

theorem readHex_append (front back : List Char) :
    readHex (front ++ back) =
      back.foldl (fun total c => 16 * total + hexValue c) (readHex front) := by
  rw [readHex, List.foldl_append]
  rfl

theorem readHex_replicate (zeros : Nat) : readHex (List.replicate zeros '0') = 0 := by
  induction zeros with
  | zero => rfl
  | succ zeros ih =>
      rw [List.replicate_succ', readHex_append, ih]
      rfl

theorem readHex_toDigits (number : Nat) : readHex (Nat.toDigits 16 number) = number := by
  induction number using Nat.strongRecOn with
  | ind number ih =>
      have hdigit : ∀ digit < 16, hexValue (Nat.digitChar digit) = digit := by decide
      rw [Nat.toDigits_eq_if (by decide)]
      split
      · rename_i hsmall
        rw [readHex, List.foldl_cons, List.foldl_nil, hdigit number hsmall]
        omega
      · rename_i hlarge
        rw [readHex_append, ih (number / 16) (by omega), List.foldl_cons, List.foldl_nil,
          hdigit _ (Nat.mod_lt _ (by decide))]
        omega

theorem readHex_of_writesHex {digits : List Char} {number : Nat}
    (h : WritesHex digits number) : (∀ c ∈ digits, isHexDigit c) ∧ readHex digits = number := by
  obtain ⟨zeros, hlower⟩ := h
  have hdigit : ∀ c ∈ digits, ∃ digit < 16, c.toLower = Nat.digitChar digit := by
    intro c hc
    have hmem : c.toLower ∈ List.replicate zeros '0' ++ Nat.toDigits 16 number :=
      hlower ▸ List.mem_map_of_mem hc
    rcases List.mem_append.mp hmem with hmem | hmem
    · exact ⟨0, by decide, List.eq_of_mem_replicate hmem⟩
    · exact exists_of_mem_toDigits hmem
  have hvalue : ∀ c ∈ digits, hexValue c = hexValue c.toLower := by
    intro c hc
    obtain ⟨digit, hlt, hsame⟩ := hdigit c hc
    have hself : (Nat.digitChar digit).toLower = Nat.digitChar digit := by
      rw [← hsame, c.toLower_toLower_eq_toLower]
    rw [(hexDigit_of_toLower hlt hsame).2, hsame, (hexDigit_of_toLower hlt hself).2]
  constructor
  · intro c hc
    obtain ⟨digit, hlt, hsame⟩ := hdigit c hc
    exact (hexDigit_of_toLower hlt hsame).1
  · calc readHex digits = readHex (digits.map Char.toLower) := by
          rw [readHex, readHex, List.foldl_map]
          exact List.foldl_ext _ _ _ fun total c hc => by rw [hvalue c hc]
      _ = readHex (Nat.toDigits 16 number) := by
          rw [hlower, readHex_append, readHex_replicate]
          rfl
      _ = number := readHex_toDigits number

theorem token_hexadecimal {value : Int64} {mark : Char} {digits after : List Char}
    (hvalue : 0 ≤ value) (hmark : mark = 'h' ∨ mark = 'H')
    (hdigits : WritesHex digits value.toNatClampNeg) (hafter : IsBreak after) :
    token ('&' :: mark :: digits ++ after) =
      .hit (.integer value) ('&' :: mark :: digits) after := by
  obtain ⟨hall, hread⟩ := readHex_of_writesHex hdigits
  have hne : digits.isEmpty = false := by
    obtain ⟨zeros, hlower⟩ := hdigits
    cases digits with
    | nil => exact absurd (List.append_eq_nil_iff.mp hlower.symm).2 Nat.toDigits_ne_nil
    | cons => rfl
  have hbound : value.toNatClampNeg < integerBound := value.toNatClampNeg_lt
  have hhead := hafter.head (p := isHexDigit) rfl
  have htoken : token ('&' :: mark :: digits ++ after) = hexadecimal (mark :: (digits ++ after)) :=
    rfl
  have hprefix : (mark == 'h' || mark == 'H') = true := by
    rcases hmark with rfl | rfl <;> rfl
  rw [htoken, hexadecimal, if_pos hprefix]
  dsimp only
  rw [takeWhile_run hall hhead, dropWhile_run hall hhead, hne, hread, if_pos hbound,
    Int64.ofNat_toNatClampNeg value hvalue]
  rfl

/-- However a token is written, it is read off the front of a text, up to the next space. -/
theorem token_spelled {token : Token} {spelling : String} {after : List Char}
    (htoken : token.IsSpellable) (hspelled : token.Spelled spelling) (hafter : IsBreak after) :
    Scanner.token (spelling.toList ++ after) = .hit token spelling.toList after := by
  cases token with
  | symbol mark =>
      obtain rfl := hspelled
      exact token_symbol mark hafter
  | keyword word => exact token_keyword hspelled hafter
  | integer value =>
      rcases hspelled with rfl | ⟨mark, digits, rfl, hmark, hdigits⟩
      · rw [Nat.toString_eq_ofList_toDigits, String.toList_ofList]
        exact token_decimal htoken hafter
      · rw [String.toList_ofList]
        exact token_hexadecimal htoken hmark hdigits hafter
  | text value =>
      obtain rfl := hspelled
      rw [String.toList_ofList]
      exact token_text htoken hafter
  | identifier name =>
      obtain rfl := hspelled
      obtain ⟨stem, suffix, rfl, hstem, hsuffix, hreserved, hrem⟩ := htoken
      rw [String.toList_ofList]
      exact token_identifier hstem hsuffix hreserved hrem hafter
  | directive name =>
      obtain rfl := hspelled
      obtain ⟨hname, hkey⟩ := htoken
      have hread := token_directive name.toList hname (by rwa [String.ofList_toList])
        hafter
      rw [String.ofList_toList] at hread
      rwa [String.toList_append]
  | newline =>
      obtain rfl := hspelled
      exact token_newline after
  | float value => exact hspelled.elim
  | comment => exact hspelled.elim

theorem not_isInlineBlank_of_hit {c : Char} {rest taken after : List Char} {found : Token}
    (h : token (c :: rest) = .hit found taken after) : ¬ isInlineBlank c := by
  intro hblank
  rcases Bool.or_eq_true_iff.mp hblank with hblank | hblank <;> rw [eq_of_beq hblank] at h <;>
    cases h

theorem exists_scans {tokens : List Token} {spellings : List String}
    (htokens : ∀ token ∈ tokens, token.IsSpellable)
    (hspelled : List.Forall₂ Token.Spelled tokens spellings) (offset : Nat) :
    ∃ lexemes, Scans offset (" ".intercalate spellings).toList lexemes ∧
      lexemes.map Lexeme.token = tokens := by
  induction hspelled generalizing offset with
  | nil => exact ⟨[], .done offset, rfl⟩
  | @cons token spelling tokens spellings hfirst hrest ih =>
      obtain ⟨htoken, hothers⟩ := List.forall_mem_cons.mp htokens
      -- behind the first token the text ends, or a blank and the other tokens follow
      have hsplit : ∃ after, (" ".intercalate (spelling :: spellings)).toList =
          spelling.toList ++ after ∧ IsBreak after ∧
          ∃ lexemes, Scans (offset + byteSize spelling.toList) after lexemes ∧
            lexemes.map Lexeme.token = tokens := by
        cases hrest with
        | nil => exact ⟨[], by simp, .inl rfl, [], .done _, rfl⟩
        | @cons other next others nexts =>
            obtain ⟨lexemes, hscans, hmap⟩ := ih hothers (offset + byteSize spelling.toList + 1)
            refine ⟨_, ?_, .inr ⟨_, rfl⟩, lexemes, .blank rfl hscans, hmap⟩
            rw [String.intercalate_cons_cons, String.toList_append, String.toList_append,
              List.append_assoc]
            rfl
      obtain ⟨after, htext, hbreak, lexemes, hscans, hmap⟩ := hsplit
      have hread := token_spelled htoken hfirst hbreak
      have hne := token_splits (spelling.toList ++ after)
      rw [hread] at hne
      obtain ⟨c, rest, hchars⟩ := List.exists_cons_of_ne_nil hne.2
      rw [htext]
      rw [hchars, List.cons_append] at hread ⊢
      rw [hchars] at hscans
      exact ⟨_, .token (not_isInlineBlank_of_hit hread) hread hscans, by rw [List.map_cons, hmap]⟩

theorem Scans.all_isInlineBlank_eq_false {offset : Nat} {chars : List Char}
    {lexemes : List Lexeme} (h : Scans offset chars lexemes) (hne : lexemes ≠ []) :
    chars.all isInlineBlank = false := by
  induction h with
  | done => exact absurd rfl hne
  | blank hblank _ ih => rw [List.all_cons, ih hne, Bool.and_false]
  | token hblank _ _ =>
      rw [List.all_cons, Bool.eq_false_of_not_eq_true hblank, Bool.false_and]

/-- Tokens that can be written, however they are written with a space between any two, are scanned
without error, and the same tokens are found again. -/
theorem scan_intercalate_spellings {tokens : List Token}
    (htokens : ∀ token ∈ tokens, token.IsSpellable) :
    (∃ spellings, List.Forall₂ Token.Spelled tokens spellings) ∧
    ∀ spellings, List.Forall₂ Token.Spelled tokens spellings →
      (scan (" ".intercalate spellings)).errors = [] ∧
        (scan (" ".intercalate spellings)).lexemes.map Lexeme.token = tokens := by
  refine ⟨Token.exists_spelled_all htokens, fun spellings hspelled => ?_⟩
  obtain ⟨lexemes, hscans, hmap⟩ := exists_scans htokens hspelled 0
  have hblank : (!(" ".intercalate spellings).toList.isEmpty &&
      (" ".intercalate spellings).toList.all isInlineBlank) = false := by
    cases hspelled with
    | nil => rfl
    | cons hfirst hrest =>
        rw [hscans.all_isInlineBlank_eq_false (by rintro rfl; cases hmap), Bool.and_false]
  unfold scan
  dsimp only
  rw [hblank, hscans.scanFrom_eq]
  exact ⟨rfl, hmap⟩

theorem scan_intercalate_spellings_of_line :
    (∀ token ∈ [Token.keyword .print, .identifier "name$", .text "a\"b", .integer 255],
      token.IsSpellable) ∧
    List.Forall₂ Token.Spelled
      [.keyword .print, .identifier "name$", .text "a\"b", .integer 255]
      ["Print", "name$", "\"a\"\"b\"", "&h0Ff"] ∧
    (scan "Print name$ \"a\"\"b\" &h0Ff").lexemes.map Lexeme.token =
      [.keyword .print, .identifier "name$", .text "a\"b", .integer 255] := by
  have hname : Token.IsSpellable (.identifier "name$") :=
    ⟨['n', 'a', 'm', 'e'], ['$'], rfl, ⟨'n', ['a', 'm', 'e'], rfl, rfl, by simp [isWordChar]⟩,
      .inr ⟨'$', rfl, rfl⟩, by decide +kernel, by decide +kernel⟩
  have htext : Token.IsSpellable (.text "a\"b") := by
    change ∀ c ∈ ['a', '"', 'b'], c ≠ '\n' ∧ c ≠ '\r'
    simp
  have hspellable : ∀ token ∈ [Token.keyword .print, .identifier "name$", .text "a\"b",
      .integer 255], token.IsSpellable := by
    simp only [List.forall_mem_cons]
    exact ⟨trivial, hname, htext, show (0 : Int64) ≤ 255 by decide, List.forall_mem_nil _⟩
  have hprint : Token.Spelled (.keyword .print) "Print" :=
    show Name.key "Print" = "print" by decide +kernel
  have hspelled : List.Forall₂ Token.Spelled
      [.keyword .print, .identifier "name$", .text "a\"b", .integer 255]
      ["Print", "name$", "\"a\"\"b\"", "&h0Ff"] :=
    .cons hprint (.cons rfl (.cons rfl (.cons
      (.inr ⟨'h', ['0', 'F', 'f'], rfl, .inl rfl, 1, by decide +kernel⟩) .nil)))
  exact ⟨hspellable, hspelled, ((scan_intercalate_spellings hspellable).2 _ hspelled).2⟩

end Scanner

end BrightScript
