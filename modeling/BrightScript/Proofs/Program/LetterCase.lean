import BrightScript.Program.Linked
import BrightScript.Proofs.Conditional.LetterCase
import BrightScript.Proofs.Syntax.LetterCase

namespace BrightScript

/-- Two outcomes are failures related in one way, or results related in another. -/
inductive SameOutcome {ε α : Type} (fault : ε → ε → Prop) (same : α → α → Prop) :
    Except ε α → Except ε α → Prop
  | error {error error' : ε} (hfault : fault error error') :
      SameOutcome fault same (.error error) (.error error')
  | ok {value value' : α} (hsame : same value value') :
      SameOutcome fault same (.ok value) (.ok value')

theorem sameOutcome_of_map_eq {ε ε' α α' : Type} {shown : ε → ε'} {visible : α → α'}
    {outcome outcome' : Except ε α}
    (heq : (outcome.map visible).mapError shown = (outcome'.map visible).mapError shown) :
    SameOutcome (shown · = shown ·) (visible · = visible ·) outcome outcome' := by
  cases outcome <;> cases outcome'
  · exact .error (Except.error.inj heq)
  · cases heq
  · cases heq
  · exact .ok (Except.ok.inj heq)

theorem SameOutcome.imp {ε α : Type} {fault worse : ε → ε → Prop} {same alike : α → α → Prop}
    {outcome outcome' : Except ε α} (houtcome : SameOutcome fault same outcome outcome')
    (hfault : ∀ error error', fault error error' → worse error error')
    (hsame : ∀ value value', same value value' → alike value value') :
    SameOutcome worse alike outcome outcome' := by
  cases houtcome with
  | error herror => exact .error (hfault _ _ herror)
  | ok hvalue => exact .ok (hsame _ _ hvalue)

theorem Stages.lexemes_scanText_lower (text path : String) :
    (scanText text path).lexemes.map Lexeme.lower =
      ((Scanner.scan text).lexemes.map Lexeme.lower).filter (·.token ≠ .comment) := by
  have hcomment : ∀ lexeme : Lexeme, lexeme.lower.token ≠ .comment ↔ lexeme.token ≠ .comment :=
    fun lexeme => not_congr (Token.lower_eq_iff (by simp))
  simp only [scanText, List.filter_map, Function.comp_def, hcomment]

theorem Conditional.select_alike (manifest : Manifest) {lexemes others : List Lexeme}
    (hlexemes : lexemes.map Lexeme.lower = others.map Lexeme.lower) :
    ((select manifest lexemes).map (List.map Lexeme.lower)).mapError (List.map Error.lower) =
      ((select manifest others).map (List.map Lexeme.lower)).mapError (List.map Error.lower) := by
  rw [← select_lower, hlexemes, select_lower]

/-- A text without scan errors and the same text with letters outside of its text literals in
another case have the same tokens at the same places, but for the letter case of identifiers.
Conditional compilation keeps the same of them, or fails for both; and what is kept is read as the
same statements but for the letter case of names, or fails to be read at the same place. -/
theorem Stages.alike_of_recases {text other : String} (hrecases : Scanner.Recases text other)
    (hscan : (Scanner.scan text).errors = []) (manifest : Manifest) (path : String) :
    (Scanner.scan other).errors = [] ∧
      (Scanner.scan other).lexemes.map Lexeme.lower =
        (Scanner.scan text).lexemes.map Lexeme.lower ∧
      SameOutcome (fun errors errors' => errors.map Conditional.Error.lower =
          errors'.map Conditional.Error.lower)
        (fun kept kept' => kept.map Lexeme.lower = kept'.map Lexeme.lower ∧
          SameOutcome (fun error error' => error.span = error'.span)
            (fun statements statements' =>
              statements.map Statement.lower = statements'.map Statement.lower)
            (Grammar.parse kept) (Grammar.parse kept'))
        (Conditional.select manifest (scanText text path).lexemes)
        (Conditional.select manifest (scanText other path).lexemes) := by
  obtain ⟨herrors, hlexemes⟩ := Scanner.scan_recased hrecases hscan
  refine ⟨herrors, hlexemes, ?_⟩
  have hfiltered : (scanText text path).lexemes.map Lexeme.lower =
      (scanText other path).lexemes.map Lexeme.lower := by
    rw [lexemes_scanText_lower, lexemes_scanText_lower, hlexemes]
  have hselected := sameOutcome_of_map_eq (Conditional.select_alike manifest hfiltered)
  refine hselected.imp (fun _ _ => id) fun kept kept' hkept => ⟨hkept, ?_⟩
  refine (sameOutcome_of_map_eq (Grammar.parse_alike hkept)).imp
    (fun error error' herror => ?_) fun _ _ => id
  exact (congrArg Grammar.Error.span herror : error.lower.span = error'.lower.span)

/-- A text with directives, a text literal, a hexadecimal literal and a comment. -/
def greeting : String := "#if True\nPrint \"Hi\", &hFf, Name$ Rem Note\n#end if"

/-- The same text in capitals, but for its text literal. -/
def loudGreeting : String := "#IF TRUE\nPRINT \"Hi\", &HFF, NAME$ REM NOTE\n#END IF"

theorem Stages.alike_of_recases_greeting :
    let kept : List Lexeme :=
      [⟨.newline, ⟨8, 9⟩⟩, ⟨.keyword .print, ⟨9, 14⟩⟩, ⟨.text "Hi", ⟨15, 19⟩⟩,
        ⟨.symbol .comma, ⟨19, 20⟩⟩, ⟨.integer 255, ⟨21, 25⟩⟩, ⟨.symbol .comma, ⟨25, 26⟩⟩,
        ⟨.identifier "Name$", ⟨27, 32⟩⟩, ⟨.newline, ⟨41, 42⟩⟩]
    let statement : Statement := .print ⟨9, 32⟩
      [.literal ⟨15, 19⟩ (.text "Hi"), .literal ⟨21, 25⟩ (.integer 255),
        .variable ⟨27, 32⟩ "Name$"]
    (Scanner.scan greeting).errors = [] ∧ Scanner.Recases greeting loudGreeting ∧
      Conditional.select .empty (scanText greeting "main.brs").lexemes = .ok kept ∧
      Grammar.parse kept = .ok [statement] ∧
      (Scanner.scan loudGreeting).errors = [] ∧ ∃ kept' statements,
        Conditional.select .empty (scanText loudGreeting "main.brs").lexemes = .ok kept' ∧
        kept.map Lexeme.lower = kept'.map Lexeme.lower ∧ Grammar.parse kept' = .ok statements ∧
        [statement.lower] = statements.map Statement.lower := by
  intro kept statement
  have hscan : (Scanner.scan greeting).errors = [] := by with_unfolding_all rfl
  have hselect : Conditional.select .empty (scanText greeting "main.brs").lexemes = .ok kept := by
    with_unfolding_all rfl
  have hparse : Grammar.parse kept = .ok [statement] := by with_unfolding_all rfl
  have hrecases : Scanner.Recases greeting loudGreeting := by
    constructor
    · rw [← String.toList_inj, Name.toList_key, Name.toList_key]
      decide
    · have hparts : (Scanner.scan greeting).lexemes.all (fun lexeme =>
          lexeme.token.ctorIdx ≠ (Token.text "").ctorIdx ∨
            lexeme.span.part loudGreeting = lexeme.span.part greeting) = true := by
        with_unfolding_all rfl
      intro lexeme hlexeme value hvalue
      have hpart := of_decide_eq_true (List.all_eq_true.mp hparts lexeme hlexeme)
      rw [hvalue] at hpart
      exact hpart.resolve_left fun hother => hother rfl
  refine ⟨hscan, hrecases, hselect, hparse, ?_⟩
  obtain ⟨herrors, -, houtcome⟩ := alike_of_recases hrecases hscan .empty "main.brs"
  rw [hselect] at houtcome
  refine ⟨herrors, ?_⟩
  generalize Conditional.select .empty (scanText loudGreeting "main.brs").lexemes = outcome
    at houtcome ⊢
  cases houtcome with
  | @ok _ kept' hsame =>
      obtain ⟨hkept, hread⟩ := hsame
      rw [hparse] at hread
      generalize hparse' : Grammar.parse kept' = parsed at hread
      cases hread with
      | ok hstatements => exact ⟨kept', _, rfl, hkept, hparse', hstatements⟩

end BrightScript
