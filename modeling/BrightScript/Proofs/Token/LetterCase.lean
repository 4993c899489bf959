import BrightScript.Proofs.Token.Coverage
import BrightScript.Proofs.Token.Spelling

namespace BrightScript

theorem toLower_eq_iff {c mark : Char} (hmark : mark.isAlpha = false) :
    c.toLower = mark ↔ c = mark := by
  have hself : ∀ {d : Char}, d.isAlpha = false → d.toLower = d := fun hd =>
    Char.toLower_eq_of_not_isUpper fun hupper => by simp [Char.isAlpha, hupper] at hd
  constructor
  · intro hlower
    rw [← hlower, Char.isAlpha_toLower_eq_isAlpha] at hmark
    rw [← hlower, hself hmark]
  · rintro rfl
    exact hself hmark

theorem beq_toLower (c mark : Char) (hmark : mark.isAlpha = false) :
    (c.toLower == mark) = (c == mark) :=
  Bool.eq_iff_iff.mpr (by rw [beq_iff_eq, beq_iff_eq, toLower_eq_iff hmark])

theorem byteSize_map_toLower (chars : List Char) :
    byteSize (chars.map Char.toLower) = byteSize chars := by
  induction chars with
  | nil => rfl
  | cons c rest ih =>
      rw [List.map_cons, byteSize_cons, byteSize_cons, ih, apply_toLower Char.utf8Size (by decide)]

theorem byteSize_eq_of_toLower {chars others : List Char}
    (hsame : chars.map Char.toLower = others.map Char.toLower) :
    byteSize chars = byteSize others := by
  rw [← byteSize_map_toLower chars, hsame, byteSize_map_toLower]

theorem takeWhile_toLower (test : Char → Bool) (htest : ∀ c : Char, test c.toLower = test c)
    (chars : List Char) :
    (chars.map Char.toLower).takeWhile test = (chars.takeWhile test).map Char.toLower := by
  rw [List.takeWhile_map, show test ∘ Char.toLower = test from funext htest]

theorem dropWhile_toLower (test : Char → Bool) (htest : ∀ c : Char, test c.toLower = test c)
    (chars : List Char) :
    (chars.map Char.toLower).dropWhile test = (chars.dropWhile test).map Char.toLower := by
  rw [List.dropWhile_map, show test ∘ Char.toLower = test from funext htest]

theorem key_ofList (chars : List Char) :
    Name.key (String.ofList chars) = String.ofList (chars.map Char.toLower) := by
  rw [← String.toList_inj, Name.toList_key, String.toList_ofList, String.toList_ofList]

/-- The token, in lower case if it is an identifier. -/
def Token.lower : Token → Token
  | .identifier name => .identifier (Name.key name)
  | token => token

@[simp] theorem Token.lower_identifier (name : String) :
    (Token.identifier name).lower = .identifier (Name.key name) := rfl

@[simp] theorem Token.lower_symbol (mark : Symbol) : (Token.symbol mark).lower = .symbol mark := rfl

theorem Token.lower_eq_identifier_iff {token : Token} {name : String} :
    token.lower = .identifier name ↔ ∃ spelling, token = .identifier spelling ∧
      Name.key spelling = name := by
  cases token <;> simp [Token.lower]

theorem Token.lower_eq_iff {token other : Token} (hother : ∀ name, other ≠ .identifier name) :
    token.lower = other ↔ token = other := by
  cases token with
  | identifier name =>
      exact ⟨fun heq => (hother _ heq.symm).elim, fun heq => (hother _ heq.symm).elim⟩
  | _ => rfl

/-- The lexeme, in lower case if it is an identifier. -/
def Lexeme.lower (lexeme : Lexeme) : Lexeme := ⟨lexeme.token.lower, lexeme.span⟩

namespace Scanner

/-- The outcome for a text in lower case. -/
def Outcome.lower : Outcome → Outcome
  | .hit token taken rest => .hit token.lower (taken.map Char.toLower) (rest.map Char.toLower)
  | .miss ahead cause => .miss ahead cause

theorem isWordChar_toLower (c : Char) : isWordChar c.toLower = isWordChar c :=
  apply_toLower isWordChar (by decide) c

theorem isDigit_toLower (c : Char) : c.toLower.isDigit = c.isDigit :=
  apply_toLower Char.isDigit (by decide) c

theorem comment_toLower (opening rest : List Char) :
    comment (opening.map Char.toLower) (rest.map Char.toLower) = (comment opening rest).lower := by
  have htest : ∀ c : Char, (!isLineEnd c.toLower) = !isLineEnd c :=
    apply_toLower (!isLineEnd ·) (by decide)
  simp only [comment, takeWhile_toLower (!isLineEnd ·) htest,
    dropWhile_toLower (!isLineEnd ·) htest, Outcome.lower, List.map_append, Token.lower]

theorem typeMark_toLower (chars : List Char) :
    typeMark (chars.map Char.toLower) = (typeMark chars).map Char.toLower := by
  cases chars with
  | nil => rfl
  | cons c rest =>
      have hmark : isTypeMark c.toLower = isTypeMark c :=
        apply_toLower isTypeMark (by decide) c
      simp only [List.map_cons, typeMark, hmark]
      split <;> rfl

theorem wordToken_toLower (chars : List Char) :
    wordToken (String.ofList (chars.map Char.toLower)) =
      (wordToken (String.ofList chars)).lower := by
  have hword : Keyword.ofWord? (Name.key (String.ofList chars)) =
      Keyword.ofWord? (String.ofList chars) := by
    simp only [Keyword.ofWord?, Name.key_key]
  rw [← key_ofList, wordToken, wordToken, hword]
  cases Keyword.ofWord? (String.ofList chars) <;> rfl

theorem word_toLower (chars : List Char) :
    word (chars.map Char.toLower) = (word chars).lower := by
  simp only [word, takeWhile_toLower _ isWordChar_toLower, dropWhile_toLower _ isWordChar_toLower,
    typeMark_toLower, ← List.map_append, wordToken_toLower, List.length_map, ← List.map_drop,
    Outcome.lower]

theorem any_head?_toLower {test : Char → Bool} (htest : ∀ c : Char, test c.toLower = test c)
    (chars : List Char) : (chars.map Char.toLower).head?.any test = chars.head?.any test := by
  cases chars with
  | nil => rfl
  | cons c rest => exact htest c

theorem wordOrComment_toLower (chars : List Char) :
    wordOrComment (chars.map Char.toLower) = (wordOrComment chars).lower := by
  rcases chars with _ | ⟨r, _ | ⟨e, _ | ⟨m, rest⟩⟩⟩
  · exact word_toLower []
  · exact word_toLower [r]
  · exact word_toLower [r, e]
  · have hkey : Name.key (String.ofList [r.toLower, e.toLower, m.toLower]) =
        Name.key (String.ofList [r, e, m]) := by
      rw [← Name.key_key (String.ofList [r, e, m]), key_ofList [r, e, m]]
      rfl
    simp only [List.map_cons, wordOrComment, hkey, any_head?_toLower isWordChar_toLower]
    split
    · exact comment_toLower [r, e, m] rest
    · exact word_toLower (r :: e :: m :: rest)

theorem directive_toLower (rest : List Char) :
    directive (rest.map Char.toLower) = (directive rest).lower := by
  have hstart : ∀ c : Char, isWordStart c.toLower = isWordStart c :=
    apply_toLower isWordStart (by decide)
  simp only [directive, any_head?_toLower hstart, takeWhile_toLower _ isWordChar_toLower,
    dropWhile_toLower _ isWordChar_toLower, ← key_ofList, Name.key_key]
  split
  · rfl
  · rfl

theorem readHex_toLower (digits : List Char) :
    readHex (digits.map Char.toLower) = readHex digits := by
  have hvalue : ∀ c : Char, hexValue c.toLower = hexValue c := apply_toLower hexValue (by decide)
  simp only [readHex, List.foldl_map, hvalue]

theorem hexadecimal_toLower (rest : List Char) :
    hexadecimal (rest.map Char.toLower) = (hexadecimal rest).lower := by
  cases rest with
  | nil => rfl
  | cons h tail =>
      have hmark : (h.toLower == 'h' || h.toLower == 'H') = (h == 'h' || h == 'H') :=
        apply_toLower (fun c => c == 'h' || c == 'H') (by decide) h
      have hdigit : ∀ c : Char, isHexDigit c.toLower = isHexDigit c :=
        apply_toLower isHexDigit (by decide)
      simp only [List.map_cons, hexadecimal, hmark, takeWhile_toLower _ hdigit,
        dropWhile_toLower _ hdigit, readHex_toLower, List.isEmpty_map]
      repeat' split
      all_goals rfl

theorem map_toLower_of_isDigit {digits : List Char} (hdigits : ∀ c ∈ digits, c.isDigit) :
    digits.map Char.toLower = digits := by
  refine (List.map_congr_left fun c hc => ?_).trans (List.map_id digits)
  refine Char.toLower_eq_of_not_isUpper fun hupper => ?_
  have hdigit := isDigit_of_isWordStart (c := c) (by simp [isWordStart, Char.isAlpha, hupper])
  rw [hdigits c hc] at hdigit
  cases hdigit

theorem exists_of_map_toLower (mark : Char) (hmark : mark.isAlpha = false)
    {chars tail : List Char} (hmap : chars.map Char.toLower = mark :: tail) :
    ∃ behind, chars = mark :: behind ∧ behind.map Char.toLower = tail := by
  obtain ⟨c, behind, rfl, hc, hbehind⟩ := List.map_eq_cons_iff.mp hmap
  exact ⟨behind, by rw [(toLower_eq_iff hmark).mp hc], hbehind⟩

theorem wholeDigits_of_ne {c : Char} (hc : c ≠ '0') (rest : List Char) :
    wholeDigits (c :: rest) = (c :: rest).takeWhile Char.isDigit := by
  unfold wholeDigits
  split
  · rename_i heq
    exact absurd (List.cons.inj heq).1 hc
  · rfl

theorem wholeDigits_toLower (chars : List Char) :
    wholeDigits (chars.map Char.toLower) = wholeDigits chars := by
  cases chars with
  | nil => rfl
  | cons c rest =>
      by_cases hc : c = '0'
      · rw [hc]
        rfl
      · have hlower : c.toLower ≠ '0' := fun h => hc ((toLower_eq_iff (by decide)).mp h)
        rw [List.map_cons, wholeDigits_of_ne hlower, wholeDigits_of_ne hc, ← List.map_cons,
          takeWhile_toLower _ isDigit_toLower]
        exact map_toLower_of_isDigit fun _ => List.mem_takeWhile_imp

theorem integer_toLower {whole : List Char} (hwhole : whole.map Char.toLower = whole)
    (rest : List Char) (reach : Nat) :
    integer whole (rest.map Char.toLower) reach = (integer whole rest reach).lower := by
  unfold integer
  dsimp only
  split
  · rw [Outcome.lower, hwhole]
    rfl
  · rfl

theorem number_toLower (chars : List Char) :
    number (chars.map Char.toLower) = (number chars).lower := by
  have hwhole : (wholeDigits chars).map Char.toLower = wholeDigits chars :=
    map_toLower_of_isDigit fun _ => isDigit_of_mem_wholeDigits
  unfold number
  simp only [wholeDigits_toLower, ← List.map_drop]
  generalize chars.drop (wholeDigits chars).length = rest
  split
  · rename_i tail htail
    obtain ⟨behind, rfl, rfl⟩ := exists_of_map_toLower '.' rfl htail
    have hfraction : (behind.takeWhile Char.isDigit).map Char.toLower =
        behind.takeWhile Char.isDigit :=
      map_toLower_of_isDigit fun _ => List.mem_takeWhile_imp
    simp only [takeWhile_toLower _ isDigit_toLower, dropWhile_toLower _ isDigit_toLower, hfraction]
    split
    · exact integer_toLower hwhole ('.' :: behind) _
    · simp only [Outcome.lower, List.map_append, List.map_cons, hwhole, hfraction, Token.lower]
      rfl
  · rename_i hpoint
    split
    · exact absurd rfl (hpoint _)
    · exact integer_toLower hwhole rest _

theorem symbol_toLower {c : Char} (hc : c.isAlpha = false) (rest : List Char) :
    symbol c (rest.map Char.toLower) = (symbol c rest).lower := by
  have hself : c.toLower = c := (toLower_eq_iff hc).mpr rfl
  have hhead : ∀ mark : Char, mark.isAlpha = false → (∀ tail, rest = mark :: tail → False) →
      ∀ tail, rest.map Char.toLower = mark :: tail → False := by
    intro mark hmark hnone tail hmap
    obtain ⟨behind, hbehind, -⟩ := exists_of_map_toLower mark hmark hmap
    exact hnone behind hbehind
  fun_cases symbol c rest
  case case5 hequal one =>
    have hequal' := hhead '=' rfl hequal
    simp [symbol, one, Outcome.lower, Token.lower]
  case case6 hgreater hequal one =>
    have hgreater' := hhead '>' rfl hgreater
    have hequal' := hhead '=' rfl hequal
    simp [symbol, one, Outcome.lower, Token.lower]
  case case22 hbreak =>
    have hnewline : ∀ tail, c = '\r' → rest.map Char.toLower = '\n' :: tail → False :=
      fun tail hreturn => hhead '\n' rfl (fun tail => hbreak tail hreturn) tail
    simp_all [symbol, Outcome.lower, Token.lower]
  case case23 hbreak =>
    have hnewline : ∀ tail, c = '\r' → rest.map Char.toLower = '\n' :: tail → False :=
      fun tail hreturn => hhead '\n' rfl (fun tail => hbreak tail hreturn) tail
    simp_all [symbol, Outcome.lower]
  all_goals rfl

theorem token_toLower {chars : List Char} (hquote : chars.head? ≠ some '"') :
    token (chars.map Char.toLower) = (token chars).lower := by
  cases chars with
  | nil => rfl
  | cons c rest =>
      have hstart : isWordStart c.toLower = isWordStart c := apply_toLower isWordStart (by decide) c
      have hliteral : (c == '"') = false := by
        rw [beq_eq_false_iff_ne]
        rintro rfl
        exact hquote rfl
      simp only [List.map_cons, token, beq_toLower c '\'' rfl,
        beq_toLower c '#' rfl, beq_toLower c '&' rfl,
        beq_toLower c '"' rfl, hliteral, isDigit_toLower, hstart]
      repeat' split
      · exact comment_toLower [c] rest
      · exact directive_toLower rest
      · exact hexadecimal_toLower rest
      · contradiction
      · exact number_toLower (c :: rest)
      · exact wordOrComment_toLower (c :: rest)
      · rename_i hword
        have halpha : c.isAlpha = false := by
          simp only [isWordStart, Bool.or_eq_true, not_or, Bool.not_eq_true] at hword
          exact hword.1
        rw [(toLower_eq_iff halpha).mpr rfl]
        exact symbol_toLower halpha rest

theorem quoted_recased {value taken rest all after others : List Char} {found : Token}
    (hquoted : quoted value taken rest = .hit found all after)
    (hothers : others.map Char.toLower = after.map Char.toLower) :
    (∃ text, found = .text text) ∧ ∃ inside, rest = inside ++ after ∧
      quoted value taken (inside ++ others) = .hit found all others := by
  fun_induction quoted value taken rest with
  | case1 value taken rest ih =>
      obtain ⟨htext, inside, rfl, hagain⟩ := ih hquoted
      exact ⟨htext, '"' :: '"' :: inside, rfl, hagain⟩
  | case2 value taken rest hclosed =>
      cases hquoted
      refine ⟨⟨_, rfl⟩, ['"'], rfl, ?_⟩
      rw [List.cons_append, List.nil_append, quoted]
      · rintro tail rfl
        obtain ⟨behind, rfl, -⟩ := exists_of_map_toLower '"' rfl hothers.symm
        exact hclosed behind rfl
  | case3 => cases hquoted
  | case4 value taken c rest hdouble hclosing hline ih =>
      obtain ⟨htext, inside, rfl, hagain⟩ := ih hquoted
      refine ⟨htext, c :: inside, rfl, ?_⟩
      rwa [List.cons_append, quoted_cons value taken _ hclosing (Bool.eq_false_iff.mpr hline)]
  | case5 => cases hquoted

end Scanner

/-- The characters that a span covers. -/
def Span.part (span : Span) (text : String) : String :=
  String.Pos.Raw.extract text ⟨span.start⟩ ⟨span.stop⟩

theorem Span.part_of_append {text : String} {before middle after : List Char}
    (htext : text.toList = before ++ (middle ++ after)) :
    Span.part ⟨byteSize before, byteSize before + byteSize middle⟩ text =
      String.ofList middle := by
  have hsize : ∀ chars : List Char, byteSize chars = String.utf8Len chars := fun chars => by
    rw [byteSize_eq_utf8ByteSize, String.utf8ByteSize_ofList]
  rw [Span.part, ← String.ofList_toList (s := text), htext, ← List.append_assoc, hsize, hsize]
  exact String.extract_of_valid before middle after

namespace Scanner

/-- The first token of a text is taken off the text in another letter case as well, if that starts
with the same text literal or with none. -/
theorem hit_recased {chars others taken after : List Char} {found : Token}
    (htoken : token chars = .hit found taken after)
    (hothers : others.map Char.toLower = chars.map Char.toLower)
    (htext : ∀ value, found = .text value → taken <+: others) :
    ∃ other taken' after', token others = .hit other taken' after' ∧ other.lower = found.lower ∧
      taken'.map Char.toLower = taken.map Char.toLower ∧
      after'.map Char.toLower = after.map Char.toLower := by
  by_cases hquote : chars.head? = some '"'
  · obtain ⟨rest, rfl⟩ : ∃ rest, chars = '"' :: rest := by
      cases chars with
      | nil => cases hquote
      | cons c rest => exact ⟨rest, by rw [Option.some.inj hquote]⟩
    have hquoted : quoted [] ['"'] rest = .hit found taken after := htoken
    obtain ⟨⟨value, hvalue⟩, -⟩ := quoted_recased hquoted rfl
    obtain ⟨behind, rfl⟩ := htext value hvalue
    have hsplit : '"' :: rest = taken ++ after := by
      have hsplits := token_splits ('"' :: rest)
      rw [htoken] at hsplits
      exact hsplits.1
    rw [hsplit, List.map_append, List.map_append, List.append_right_inj] at hothers
    obtain ⟨-, inside, rfl, hagain⟩ := quoted_recased hquoted hothers
    obtain rfl : '"' :: inside = taken := List.append_cancel_right hsplit
    exact ⟨found, _, behind, hagain, rfl, rfl, hothers⟩
  · have hquote' : others.head? ≠ some '"' := by
      intro hhead
      cases others with
      | nil => cases hhead
      | cons c rest =>
          obtain rfl : c = '"' := Option.some.inj hhead
          obtain ⟨behind, rfl, -⟩ := exists_of_map_toLower '"' rfl hothers.symm
          exact hquote rfl
    have hlower := token_toLower hquote'
    rw [hothers, token_toLower hquote, htoken] at hlower
    cases hother : token others with
    | miss ahead cause =>
        rw [hother] at hlower
        cases hlower
    | hit other taken' after' =>
        rw [hother] at hlower
        obtain ⟨hfound, htaken, hafter⟩ := Outcome.hit.inj hlower
        exact ⟨other, taken', after', rfl, hfound.symm, htaken.symm, hafter.symm⟩

/-- The second text is the first with letters outside of its text literals in another case. -/
structure Recases (text other : String) : Prop where
  key_eq : Name.key other = Name.key text
  part_eq : ∀ lexeme ∈ (scan text).lexemes, ∀ value, lexeme.token = .text value →
    lexeme.span.part other = lexeme.span.part text

theorem prefix_of_part_eq {text other : String} {before before' taken after others : List Char}
    (htext : text.toList = before ++ (taken ++ after)) (hother : other.toList = before' ++ others)
    (hoffset : byteSize before' = byteSize before)
    (hothers : others.map Char.toLower = (taken ++ after).map Char.toLower)
    (hpart : Span.part ⟨byteSize before, byteSize before + byteSize taken⟩ other =
      Span.part ⟨byteSize before, byteSize before + byteSize taken⟩ text) : taken <+: others := by
  rw [List.map_append] at hothers
  obtain ⟨same, behind, rfl, hsame, -⟩ := List.map_eq_append_iff.mp hothers
  rw [Span.part_of_append htext, ← hoffset, ← byteSize_eq_of_toLower hsame,
    Span.part_of_append hother] at hpart
  rw [← String.ofList_inj.mp hpart]
  exact List.prefix_append same behind

/-- The induction is on how the first text is scanned; both texts are read up to one offset. -/
theorem Scans.recased {text other : String} {offset : Nat} {chars others : List Char}
    {lexemes : List Lexeme} (h : Scans offset chars lexemes) (before before' : List Char)
    (htext : text.toList = before ++ chars) (hother : other.toList = before' ++ others)
    (hoffset : byteSize before = offset) (hoffset' : byteSize before' = offset)
    (hothers : others.map Char.toLower = chars.map Char.toLower)
    (hpart : ∀ lexeme ∈ lexemes, ∀ value, lexeme.token = .text value →
      lexeme.span.part other = lexeme.span.part text) :
    ∃ recased, Scans offset others recased ∧
      recased.map Lexeme.lower = lexemes.map Lexeme.lower := by
  induction h generalizing others before before' with
  | done offset =>
      obtain rfl := List.map_eq_nil_iff.mp hothers
      exact ⟨[], .done offset, rfl⟩
  | @blank offset c rest lexemes hblank hrest ih =>
      obtain ⟨d, behind, rfl, hd, hbehind⟩ := List.map_eq_cons_iff.mp hothers
      have hsize : d.utf8Size = c.utf8Size := by
        rw [← apply_toLower Char.utf8Size (by decide) d, hd,
          apply_toLower Char.utf8Size (by decide) c]
      have hblank' : isInlineBlank d := by
        rwa [← apply_toLower isInlineBlank (by decide) d, hd,
          apply_toLower isInlineBlank (by decide) c]
      obtain ⟨recased, hscans, hlower⟩ := ih (before ++ [c]) (before' ++ [d]) (by simpa using htext)
        (by simpa using hother) (by simp [hoffset]) (by simp [hoffset', hsize]) hbehind hpart
      rw [← hsize] at hscans
      exact ⟨recased, .blank hblank' hscans, hlower⟩
  | @token offset c rest taken after found lexemes hblank htoken hafter ih =>
      obtain ⟨hfirst, hlater⟩ := List.forall_mem_cons.mp hpart
      obtain ⟨hsplit, -⟩ := (htoken ▸ token_splits (c :: rest) :)
      rw [hsplit] at htext
      have hliteral : ∀ value, found = .text value → taken <+: others := fun value hvalue =>
        prefix_of_part_eq htext hother (hoffset'.trans hoffset.symm) (hsplit ▸ hothers)
          (by rw [hoffset, hfirst value hvalue])
      obtain ⟨other', taken', after', htoken', hfound, htaken, hbehind⟩ :=
        hit_recased htoken hothers hliteral
      have hsize : byteSize taken' = byteSize taken := byteSize_eq_of_toLower htaken
      obtain ⟨d, rest', rfl, hd, -⟩ := List.map_eq_cons_iff.mp hothers
      obtain ⟨hsplit', -⟩ := (htoken' ▸ token_splits (d :: rest') :)
      have hblank' : ¬ isInlineBlank d := by
        rwa [← apply_toLower isInlineBlank (by decide) d, hd,
          apply_toLower isInlineBlank (by decide) c]
      obtain ⟨recased, hscans, hlower⟩ := ih (before ++ taken) (before' ++ taken')
        (by rw [htext, List.append_assoc]) (by rw [hother, hsplit', List.append_assoc])
        (by rw [byteSize_append, hoffset]) (by rw [byteSize_append, hoffset', hsize]) hbehind hlater
      rw [← hsize] at hscans ⊢
      refine ⟨_, .token hblank' htoken' hscans, ?_⟩
      rw [List.map_cons, List.map_cons, hlower, Lexeme.lower, Lexeme.lower, hfound]

theorem scan_recased {text other : String} (hrecases : Recases text other)
    (hscan : (scan text).errors = []) :
    (scan other).errors = [] ∧
      (scan other).lexemes.map Lexeme.lower = (scan text).lexemes.map Lexeme.lower := by
  have hchars : other.toList.map Char.toLower = text.toList.map Char.toLower := by
    rw [← Name.toList_key, ← Name.toList_key, hrecases.key_eq]
  have hpart := hrecases.part_eq
  have hall : other.toList.all isInlineBlank = text.toList.all isInlineBlank := by
    have hblank : isInlineBlank ∘ Char.toLower = isInlineBlank :=
      funext (apply_toLower isInlineBlank (by decide))
    rw [← hblank, ← List.all_map, ← List.all_map, hchars]
  have hempty : other.toList.isEmpty = text.toList.isEmpty := by
    rw [← List.isEmpty_map (f := Char.toLower), hchars, List.isEmpty_map]
  unfold scan at hscan hpart ⊢
  dsimp only at hscan hpart ⊢
  rw [hall, hempty]
  split at hscan
  · cases hscan
  · rename_i hblank
    rw [if_neg hblank] at hpart ⊢
    have hwhole : other.toList = [] ++ other.toList := rfl
    obtain ⟨recased, hscans, hlower⟩ :=
      (scans_of_errors_eq_nil hscan).recased [] [] rfl hwhole rfl rfl hchars hpart
    rw [if_neg hblank, hscans.scanFrom_eq]
    exact ⟨rfl, hlower⟩

end Scanner

end BrightScript
