import Mathlib
import BrightScript.Token.Scanner

/-!
A scan loses nothing of a text. Without errors, its tokens are parts of the text one after the
other, and only spaces and tabs are left out between them; and wherever an error is reported, the
place is one of the text.
-/

namespace BrightScript

theorem byteSize_eq_utf8ByteSize (chars : List Char) :
    byteSize chars = (String.ofList chars).utf8ByteSize := by
  rw [String.utf8ByteSize_ofList]
  induction chars with
  | nil => rfl
  | cons c rest ih => rw [byteSize_cons, ih, String.utf8Len_cons, Nat.add_comm]

theorem byteSize_toList (text : String) : byteSize text.toList = text.utf8ByteSize := by
  rw [byteSize_eq_utf8ByteSize, String.ofList_toList]

theorem byteSize_reverse (chars : List Char) : byteSize chars.reverse = byteSize chars := by
  induction chars with
  | nil => rfl
  | cons c rest ih =>
      rw [List.reverse_cons, byteSize_append, ih, byteSize_cons, byteSize_cons, byteSize_nil,
        Nat.add_zero, Nat.add_comm]

theorem byteSize_pos {chars : List Char} (hchars : chars ≠ []) : 0 < byteSize chars := by
  obtain ⟨c, rest, rfl⟩ := List.exists_cons_of_ne_nil hchars
  have hpos := c.utf8Size_pos
  rw [byteSize_cons]
  omega

/-- The span is a part of the text: it starts and stops where characters do. -/
structure Span.Within (span : Span) (text : String) : Prop where
  start_le_stop : span.start ≤ span.stop
  stop_le : span.stop ≤ text.utf8ByteSize
  isValid_start : String.Pos.Raw.IsValid text ⟨span.start⟩
  isValid_stop : String.Pos.Raw.IsValid text ⟨span.stop⟩

theorem isValid_of_append {text : String} {before after : List Char}
    (htext : text.toList = before ++ after) : String.Pos.Raw.IsValid text ⟨byteSize before⟩ := by
  refine String.Pos.Raw.isValid_iff_exists_append.mpr
    ⟨String.ofList before, String.ofList after, ?_, ?_⟩
  · rw [← String.ofList_append, ← htext, String.ofList_toList]
  · rw [byteSize_eq_utf8ByteSize]
    rfl

theorem Span.within_of_append {text : String} (before middle after : List Char)
    (htext : text.toList = before ++ (middle ++ after)) :
    Span.Within ⟨byteSize before, byteSize before + byteSize middle⟩ text where
  start_le_stop := Nat.le_add_right _ _
  stop_le := by
    rw [← byteSize_toList, htext, byteSize_append, byteSize_append, ← Nat.add_assoc]
    exact Nat.le_add_right _ _
  isValid_start := isValid_of_append htext
  isValid_stop := by
    rw [← byteSize_append]
    exact isValid_of_append (htext.trans (List.append_assoc _ _ _).symm)

/-- The byte at a place belongs to a token. -/
def Lexeme.Holds (lexeme : Lexeme) (place : Nat) : Prop :=
  lexeme.span.start ≤ place ∧ place < lexeme.span.stop

namespace Scanner

/-- The rules give up at a character of the input or at its end. -/
def Outcome.StaysWithin (chars : List Char) : Outcome → Prop
  | .hit _ _ _ => True
  | .miss ahead _ => ∃ before after, chars = before ++ after ∧ byteSize before = ahead

theorem staysWithin_miss (before after : List Char) (cause : Cause) :
    (Outcome.miss (byteSize before) cause).StaysWithin (before ++ after) :=
  ⟨before, after, rfl, rfl⟩

theorem directive_staysWithin (rest : List Char) :
    (directive rest).StaysWithin ('#' :: rest) := by
  unfold directive
  split
  · trivial
  · exact staysWithin_miss ['#'] rest _

theorem utf8Size_of_isDigit {c : Char} (h : c.isDigit) : c.utf8Size = 1 := by
  rw [Char.utf8Size_eq_one_iff]
  simp only [Char.isDigit, Bool.and_eq_true, decide_eq_true_eq] at h
  exact UInt32.le_trans h.2 (by decide)

theorem byteSize_of_isDigit {digits : List Char} (h : ∀ c ∈ digits, c.isDigit) :
    byteSize digits = digits.length := by
  induction digits with
  | nil => rfl
  | cons c rest ih =>
      rw [List.forall_mem_cons] at h
      rw [byteSize_cons, utf8Size_of_isDigit h.1, ih h.2, List.length_cons, Nat.add_comm]

theorem hexadecimal_staysWithin (rest : List Char) :
    (hexadecimal rest).StaysWithin ('&' :: rest) := by
  unfold hexadecimal
  split
  · rename_i h tail
    dsimp only
    split
    · rename_i hmark
      split
      · have hsize : h.utf8Size = 1 := by
          rcases Bool.or_eq_true_iff.mp hmark with hmark | hmark <;>
            rw [eq_of_beq hmark] <;> decide
        have hmiss := staysWithin_miss ['&', h] tail .unexpected
        rwa [byteSize_cons, byteSize_cons, hsize] at hmiss
      · split
        · trivial
        · exact staysWithin_miss [] _ _
    · exact staysWithin_miss ['&'] _ _
  · exact staysWithin_miss ['&'] [] _

theorem isDigit_of_mem_wholeDigits {chars : List Char} {c : Char} (h : c ∈ wholeDigits chars) :
    c.isDigit := by
  unfold wholeDigits at h
  split at h
  · rw [List.mem_singleton.mp h]
    decide
  · exact List.mem_takeWhile_imp h

theorem integer_staysWithin (whole rest taken after : List Char) {reach : Nat}
    (htext : whole ++ rest = taken ++ after) (hreach : byteSize taken = reach) :
    (integer whole rest reach).StaysWithin (whole ++ rest) := by
  unfold integer
  dsimp only
  split
  · trivial
  · exact ⟨taken, after, htext, hreach⟩

theorem number_staysWithin (chars : List Char) : (number chars).StaysWithin chars := by
  have hwhole := wholeDigits_append_drop chars
  have hsize : byteSize (wholeDigits chars) = (wholeDigits chars).length :=
    byteSize_of_isDigit fun _ => isDigit_of_mem_wholeDigits
  unfold number
  dsimp only
  split
  · rename_i tail hpoint
    split
    · rw [hpoint] at hwhole ⊢
      have hreach : byteSize (wholeDigits chars ++ ['.']) = (wholeDigits chars).length + 1 := by
        rw [byteSize_append, hsize]
        rfl
      have hint := integer_staysWithin (wholeDigits chars) ('.' :: tail)
        (wholeDigits chars ++ ['.']) tail (by simp) hreach
      rwa [hwhole] at hint
    · trivial
  · have hint := integer_staysWithin (wholeDigits chars)
      (chars.drop (wholeDigits chars).length) _ _ rfl hsize
    rwa [hwhole] at hint

theorem quoted_staysWithin (value taken rest : List Char) :
    (quoted value taken rest).StaysWithin (taken.reverse ++ rest) := by
  fun_induction quoted value taken rest with
  | case1 value taken rest ih => simpa using ih
  | case2 => trivial
  | case3 value taken c rest =>
      exact ⟨taken.reverse, c :: rest, rfl, byteSize_reverse taken⟩
  | case4 value taken c rest _ _ _ ih => simpa using ih
  | case5 value taken => exact ⟨taken.reverse, [], rfl, byteSize_reverse taken⟩

theorem symbol_staysWithin (c : Char) (rest : List Char) :
    (symbol c rest).StaysWithin (c :: rest) := by
  unfold symbol
  dsimp only
  split <;> first
    | trivial
    | split
      · trivial
      · exact staysWithin_miss [] _ _

theorem wordOrComment_staysWithin (chars : List Char) :
    (wordOrComment chars).StaysWithin chars := by
  unfold wordOrComment
  split
  · split <;> trivial
  · trivial

/-- The furthest character that some rule could not accept is a character of the text, if it is not
its end. -/
theorem token_staysWithin (chars : List Char) : (token chars).StaysWithin chars := by
  unfold token
  split
  · exact staysWithin_miss [] [] _
  · rename_i c rest
    repeat' split
    · trivial
    · rename_i hmark
      rw [eq_of_beq hmark]
      exact directive_staysWithin rest
    · rename_i hmark
      rw [eq_of_beq hmark]
      exact hexadecimal_staysWithin rest
    · rename_i hmark
      rw [eq_of_beq hmark]
      exact quoted_staysWithin [] ['"'] rest
    · exact number_staysWithin (c :: rest)
    · exact wordOrComment_staysWithin (c :: rest)
    · exact symbol_staysWithin c rest

theorem dropBytes_append (before after : List Char) :
    dropBytes (byteSize before) (before ++ after) = after := by
  induction before with
  | nil => rw [byteSize_nil, dropBytes, List.nil_append]
  | cons c rest ih =>
      obtain ⟨size, hsize⟩ :=
        Nat.exists_eq_succ_of_ne_zero (byteSize_pos (List.cons_ne_nil c rest)).ne'
      rw [hsize, List.cons_append, dropBytes, ← Nat.succ_eq_add_one, ← hsize, byteSize_cons,
        Nat.add_sub_cancel_left, ih]

theorem errorAt_within {text : String} {before chars : List Char} {ahead : Nat} {cause : Cause}
    (htext : text.toList = before ++ chars)
    (hahead : (Outcome.miss ahead cause).StaysWithin chars) :
    (errorAt (byteSize before) chars ahead cause).span.Within text := by
  obtain ⟨skipped, after, rfl, rfl⟩ := hahead
  unfold errorAt
  simp only [dropBytes_append, ← byteSize_append]
  cases after with
  | nil => exact Span.within_of_append (before ++ skipped) [] [] (by simpa using htext)
  | cons c rest =>
      have hparts : text.toList = before ++ skipped ++ ([c] ++ rest) := by simpa using htext
      simpa using Span.within_of_append _ _ _ hparts

theorem exists_of_resume {offset stop : Nat} {chars after : List Char} {lexeme : Lexeme}
    (h : resume offset chars = some (lexeme, stop, after)) :
    ∃ skipped, chars = skipped ++ after ∧ stop = offset + byteSize skipped := by
  induction chars generalizing offset with
  | nil => cases h
  | cons c rest ih =>
      unfold resume at h
      split at h
      · rename_i found taken tail heq
        have hsplit := token_splits (c :: rest)
        rw [heq] at hsplit
        cases h
        exact ⟨taken, hsplit.1, rfl⟩
      · obtain ⟨skipped, rfl, rfl⟩ := ih h
        exact ⟨c :: skipped, rfl, by rw [byteSize_cons, Nat.add_assoc]⟩

section Equations

variable {offset : Nat} {c : Char} {rest : List Char}

theorem scanFrom_nil (offset : Nat) : scanFrom offset [] = ⟨[], []⟩ := by
  rw [scanFrom]

theorem scanFrom_blank (hblank : isInlineBlank c) :
    scanFrom offset (c :: rest) = scanFrom (offset + c.utf8Size) rest := by
  rw [scanFrom, if_pos hblank]

theorem scanFrom_hit {found : Token} {taken after : List Char} (hblank : ¬ isInlineBlank c)
    (htoken : token (c :: rest) = .hit found taken after) :
    scanFrom offset (c :: rest) =
      ⟨⟨found, ⟨offset, offset + byteSize taken⟩⟩ ::
        (scanFrom (offset + byteSize taken) after).lexemes,
        (scanFrom (offset + byteSize taken) after).errors⟩ := by
  rw [scanFrom, if_neg hblank]
  split
  · rename_i hfound
    rw [htoken] at hfound
    cases hfound
    rfl
  · rename_i hmiss
    rw [htoken] at hmiss
    cases hmiss

theorem scanFrom_miss {ahead : Nat} {cause : Cause} (hblank : ¬ isInlineBlank c)
    (htoken : token (c :: rest) = .miss ahead cause) :
    scanFrom offset (c :: rest) =
      match resume (offset + c.utf8Size) rest with
      | some (lexeme, stop, after) =>
        ⟨lexeme :: (scanFrom stop after).lexemes,
          errorAt offset (c :: rest) ahead cause :: (scanFrom stop after).errors⟩
      | none => ⟨[], [errorAt offset (c :: rest) ahead cause]⟩ := by
  rw [scanFrom, if_neg hblank]
  split
  · rename_i hfound
    rw [htoken] at hfound
    cases hfound
  · rename_i hmiss
    rw [htoken] at hmiss
    cases hmiss
    split <;> rename_i hresume <;> rw [hresume]

end Equations

theorem scanFrom_errors_within {text : String} {offset : Nat} {chars : List Char}
    (before : List Char) (htext : text.toList = before ++ chars)
    (hoffset : byteSize before = offset) :
    ∀ error ∈ (scanFrom offset chars).errors, error.span.Within text := by
  -- the offset is the size of what was scanned so far
  induction offset, chars using scanFrom.induct generalizing before with
  | case1 offset =>
      rw [scanFrom_nil]
      exact List.forall_mem_nil _
  | case2 offset c rest hblank ih =>
      rw [scanFrom_blank hblank]
      exact ih (before ++ [c]) (by simpa using htext) (by simp [hoffset])
  | case3 offset c rest hblank found taken after htoken stop =>
      rename_i ih
      have hsplit := token_splits (c :: rest)
      rw [htoken] at hsplit
      rw [scanFrom_hit hblank htoken]
      refine ih (before ++ taken) ?_ (by rw [byteSize_append, hoffset])
      rw [htext, hsplit.1, List.append_assoc]
  | case4 offset c rest hblank ahead cause htoken lexeme stop after hresume ih =>
      have hstays := token_staysWithin (c :: rest)
      rw [htoken] at hstays
      obtain ⟨skipped, hrest, hstop⟩ := exists_of_resume hresume
      rw [scanFrom_miss hblank htoken, hresume]
      refine List.forall_mem_cons.mpr ⟨?_, ih (before ++ c :: skipped) ?_ ?_⟩
      · rw [← hoffset]
        exact errorAt_within htext hstays
      · rw [htext, hrest, List.append_assoc, List.cons_append]
      · rw [byteSize_append, hoffset, byteSize_cons, hstop, Nat.add_assoc]
  | case5 offset c rest hblank ahead cause htoken hresume =>
      have hstays := token_staysWithin (c :: rest)
      rw [htoken] at hstays
      rw [scanFrom_miss hblank htoken, hresume, ← hoffset]
      exact List.forall_mem_singleton.mpr (errorAt_within htext hstays)

/-- The characters from an offset on are scanned without error: as tokens, with blanks around. -/
inductive Scans : Nat → List Char → List Lexeme → Prop
  | done (offset : Nat) : Scans offset [] []
  | blank {offset : Nat} {c : Char} {rest : List Char} {lexemes : List Lexeme}
      (hblank : isInlineBlank c) (hrest : Scans (offset + c.utf8Size) rest lexemes) :
      Scans offset (c :: rest) lexemes
  | token {offset : Nat} {c : Char} {rest taken after : List Char} {found : Token}
      {lexemes : List Lexeme} (hblank : ¬ isInlineBlank c)
      (htoken : token (c :: rest) = .hit found taken after)
      (hafter : Scans (offset + byteSize taken) after lexemes) :
      Scans offset (c :: rest) (⟨found, ⟨offset, offset + byteSize taken⟩⟩ :: lexemes)

theorem Scans.scanFrom_eq {offset : Nat} {chars : List Char} {lexemes : List Lexeme}
    (h : Scans offset chars lexemes) : scanFrom offset chars = ⟨lexemes, []⟩ := by
  induction h with
  | done offset => exact scanFrom_nil offset
  | blank hblank _ ih => rw [scanFrom_blank hblank, ih]
  | token hblank htoken _ ih => rw [scanFrom_hit hblank htoken, ih]

theorem scans_of_errors_eq_nil {offset : Nat} {chars : List Char}
    (h : (scanFrom offset chars).errors = []) :
    Scans offset chars (scanFrom offset chars).lexemes := by
  induction offset, chars using scanFrom.induct with
  | case1 offset =>
      rw [scanFrom_nil]
      exact .done offset
  | case2 offset c rest hblank ih =>
      rw [scanFrom_blank hblank] at h ⊢
      exact .blank hblank (ih h)
  | case3 offset c rest hblank found taken after htoken stop ih =>
      rw [scanFrom_hit hblank htoken] at h ⊢
      exact .token hblank htoken (ih h)
  | case4 offset c rest hblank ahead cause htoken lexeme stop after hresume =>
      rw [scanFrom_miss hblank htoken, hresume] at h
      cases h
  | case5 offset c rest hblank ahead cause htoken hresume =>
      rw [scanFrom_miss hblank htoken, hresume] at h
      cases h

/-- The byte at a place is a space or a tab. -/
def IsBlankAt (text : String) (place : Nat) : Prop :=
  ∃ before c after, text.toList = before ++ c :: after ∧ byteSize before = place ∧ isInlineBlank c

/-- The tokens are parts of the text from an offset on, none of them empty, one after the other;
and every byte is in one of them, or else a blank. -/
structure Covers (text : String) (offset : Nat) (lexemes : List Lexeme) : Prop where
  within : ∀ lexeme ∈ lexemes, lexeme.span.Within text
  nonempty : ∀ lexeme ∈ lexemes, lexeme.span.start < lexeme.span.stop
  offset_le : ∀ lexeme ∈ lexemes, offset ≤ lexeme.span.start
  ordered : lexemes.Pairwise fun first second => first.span.stop ≤ second.span.start
  covered : ∀ place, offset ≤ place → place < text.utf8ByteSize →
    (∃! lexeme, lexeme ∈ lexemes ∧ lexeme.Holds place) ∨
      (IsBlankAt text place ∧ ∀ lexeme ∈ lexemes, ¬ lexeme.Holds place)

theorem utf8Size_of_isInlineBlank {c : Char} (h : isInlineBlank c) : c.utf8Size = 1 := by
  rcases Bool.or_eq_true_iff.mp h with h | h <;> rw [eq_of_beq h] <;> decide

theorem Covers.blank {text : String} {offset : Nat} {lexemes : List Lexeme}
    (hcovers : Covers text (offset + 1) lexemes) (hblank : IsBlankAt text offset) :
    Covers text offset lexemes := by
  refine { hcovers with
    offset_le := fun lexeme hlexeme => (Nat.le_succ _).trans (hcovers.offset_le lexeme hlexeme)
    covered := ?_ }
  intro place hplace hlt
  rcases hplace.eq_or_lt with rfl | hplace
  · refine .inr ⟨hblank, fun lexeme hlexeme hholds => ?_⟩
    have hstart := hcovers.offset_le lexeme hlexeme
    have := hholds.1
    omega
  · exact hcovers.covered place hplace hlt

theorem Covers.cons {text : String} {offset : Nat} {lexeme : Lexeme} {lexemes : List Lexeme}
    (hcovers : Covers text lexeme.span.stop lexemes) (hstart : lexeme.span.start = offset)
    (hwithin : lexeme.span.Within text) (hnonempty : lexeme.span.start < lexeme.span.stop) :
    Covers text offset (lexeme :: lexemes) := by
  subst hstart
  constructor
  · exact List.forall_mem_cons.mpr ⟨hwithin, hcovers.within⟩
  · exact List.forall_mem_cons.mpr ⟨hnonempty, hcovers.nonempty⟩
  · refine List.forall_mem_cons.mpr ⟨Nat.le_refl _, fun other hother => ?_⟩
    exact hnonempty.le.trans (hcovers.offset_le other hother)
  · exact List.pairwise_cons.mpr ⟨hcovers.offset_le, hcovers.ordered⟩
  · intro place hplace hlt
    by_cases hinside : place < lexeme.span.stop
    · refine .inl ⟨lexeme, ⟨List.mem_cons_self, hplace, hinside⟩, ?_⟩
      rintro other ⟨hother, hholds⟩
      refine (List.mem_cons.mp hother).resolve_right fun hother => ?_
      have hstart := hcovers.offset_le other hother
      have := hholds.1
      omega
    · have houtside : ¬ lexeme.Holds place := fun hholds => hinside hholds.2
      rcases hcovers.covered place (Nat.not_lt.mp hinside) hlt with hone | ⟨hblankAt, hnone⟩
      · obtain ⟨found, ⟨hfound, hholds⟩, hunique⟩ := hone
        refine .inl ⟨found, ⟨List.mem_cons_of_mem _ hfound, hholds⟩, ?_⟩
        rintro other ⟨hother, hheld⟩
        rcases List.mem_cons.mp hother with rfl | hother
        · exact absurd hheld houtside
        · exact hunique other ⟨hother, hheld⟩
      · exact .inr ⟨hblankAt, List.forall_mem_cons.mpr ⟨houtside, hnone⟩⟩

theorem Scans.covers {text : String} {offset : Nat} {chars : List Char} {lexemes : List Lexeme}
    (h : Scans offset chars lexemes) (before : List Char)
    (htext : text.toList = before ++ chars) (hoffset : byteSize before = offset) :
    Covers text offset lexemes := by
  induction h generalizing before with
  | done offset =>
      have hsize : text.utf8ByteSize = offset := by
        rw [← byteSize_toList, htext, List.append_nil, hoffset]
      refine ⟨List.forall_mem_nil _, List.forall_mem_nil _, List.forall_mem_nil _, .nil, ?_⟩
      intro place hplace hlt
      omega
  | @blank offset c rest lexemes hblank hrest ih =>
      have hcovers := ih (before ++ [c]) (by simpa using htext) (by simp [hoffset])
      rw [utf8Size_of_isInlineBlank hblank] at hcovers
      exact hcovers.blank ⟨before, c, rest, htext, hoffset, hblank⟩
  | @token offset c rest taken after found lexemes hblank htoken hafter ih =>
      have hsplit := token_splits (c :: rest)
      rw [htoken] at hsplit
      obtain ⟨hchars, hne⟩ := hsplit
      rw [hchars] at htext
      have hcovers := ih (before ++ taken) (by simpa using htext)
        (by rw [byteSize_append, hoffset])
      refine .cons hcovers rfl ?_ (Nat.lt_add_of_pos_right (byteSize_pos hne))
      rw [← hoffset]
      exact Span.within_of_append _ _ _ htext

/-- Every error of a scan is reported at a place of the text. Without errors, the tokens are parts
of the text one after the other, none of them empty; every byte of the text belongs to exactly one
token, or it is a space or a tab between tokens. -/
theorem scan_keeps_text (text : String) :
    (∀ error ∈ (scan text).errors, error.span.Within text) ∧
      ((scan text).errors = [] → Covers text 0 (scan text).lexemes) := by
  unfold scan
  dsimp only
  split
  · refine ⟨List.forall_mem_singleton.mpr ?_, fun hnone => by cases hnone⟩
    exact errorAt_within (List.append_nil _).symm (staysWithin_miss [] [] _)
  · exact ⟨scanFrom_errors_within [] rfl rfl,
      fun hnone => (scans_of_errors_eq_nil hnone).covers [] rfl rfl⟩

end Scanner

end BrightScript
