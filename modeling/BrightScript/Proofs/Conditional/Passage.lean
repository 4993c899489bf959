import BrightScript.Conditional

/-!
Conditional compilation as nested text. In a passage every `#if` has its branches and its end. Of an
`#if` that is selected, the first branch whose condition holds is selected, or else what follows the
`#else`; of everything else only the line breaks stay.
-/

namespace BrightScript.Conditional

/-- A line of a source text. -/
abbrev Line := List Lexeme

/-- A text cut into lines: each line ends with its only line break, which the last may lack. -/
inductive Ruled : List Line → Prop
  | nil : Ruled []
  | last {words : Line} (hwords : words ≠ []) (hplain : ∀ word ∈ words, word.token ≠ .newline) :
      Ruled [words]
  | line {words : Line} {lineBreak : Lexeme} {lines : List Line}
      (hplain : ∀ word ∈ words, word.token ≠ .newline) (hbreak : lineBreak.token = .newline)
      (hlines : Ruled lines) : Ruled ((words ++ [lineBreak]) :: lines)

/-- What a line is for. -/
inductive Role where
  /-- A line that does not start with a directive. -/
  | text
  /-- `#const name = value`. -/
  | definition (name : String) (value : Token)
  /-- A directive that must not be selected: `#error`, any other `#const`, or an unknown one. -/
  | refused
  /-- `#if`. -/
  | opening (condition : List Token)
  /-- `#elseif` or `#else if`. -/
  | elseIf (condition : List Token)
  /-- Any other `#else`. -/
  | otherwise
  /-- `#endif` or `#end if`. -/
  | closing
  /-- Any other line with `#endif` or `#end`. -/
  | malformed
  deriving DecidableEq

/-- What a line with a directive is for. -/
def Role.ofDirective (directive : String) (arguments : List Token) : Role :=
  match directive, arguments with
  | "if", condition => .opening condition
  | "elseif", condition => .elseIf condition
  | "else", .keyword .if :: condition => .elseIf condition
  | "else", _ => .otherwise
  | "endif", [] => .closing
  | "end", [.keyword .if] => .closing
  | "endif", _ => .malformed
  | "end", _ => .malformed
  | "const", [.identifier name, .symbol .equal, value] => .definition name value
  | _, _ => .refused

theorem Role.ofDirective_ne_text (directive : String) (arguments : List Token) :
    Role.ofDirective directive arguments ≠ .text := by
  intro hrole
  unfold Role.ofDirective at hrole
  split at hrole <;> cases hrole

/-- What a line is for. A directive counts at the start of a line only. -/
def Line.role : Line → Role
  | ⟨.directive directive, _⟩ :: rest =>
    .ofDirective directive ((rest.filter (·.token ≠ .newline)).map Lexeme.token)
  | _ => .text

/-- Whether a line neither opens nor continues nor closes an `#if`. -/
def Role.IsPlain : Role → Prop
  | .text | .definition _ _ | .refused => True
  | .opening _ | .elseIf _ | .otherwise | .closing | .malformed => False

mutual

/-- A text in which every `#if` is closed. -/
inductive Passage where
  | nil
  | line (line : Line) (hline : line.role.IsPlain) (rest : Passage)
  | choice (opening : Line) (condition : List Token) (hopening : opening.role = .opening condition)
      (body : Passage) (branches : Branches) (rest : Passage)

/-- The branches of an `#if` behind one of them, up to its end. The `#else` comes last. -/
inductive Branches where
  | closing (line : Line) (hline : line.role = .closing)
  | elseIf (line : Line) (condition : List Token) (hline : line.role = .elseIf condition)
      (body : Passage) (branches : Branches)
  | otherwise (line : Line) (hline : line.role = .otherwise) (body : Passage)
      (closing : Line) (hclosing : closing.role = .closing)

end

mutual

def Passage.lines : Passage → List Line
  | .nil => []
  | .line line _ rest => line :: rest.lines
  | .choice opening _ _ body branches rest =>
    opening :: (body.lines ++ (branches.lines ++ rest.lines))

def Branches.lines : Branches → List Line
  | .closing line _ => [line]
  | .elseIf line _ _ body branches => line :: (body.lines ++ branches.lines)
  | .otherwise line _ body closing _ => line :: (body.lines ++ [closing])

end

/-- The passage consists of the given tokens. -/
def Passage.Spells (passage : Passage) (lexemes : List Lexeme) : Prop :=
  Ruled passage.lines ∧ passage.lines.flatten = lexemes

/-- The constants that are known at a place. -/
abbrev Constants := String → Option Bool

namespace Constants

/-- The constants with one more, in whatever letter case it is named. -/
def define (known : Constants) (name : String) (value : Bool) : Constants := fun other =>
  if Name.same name other then some value else known other

/-- The value of a condition: a truth value or a known name, behind any number of `not`. -/
def value? (known : Constants) : List Token → Option Bool
  | [.keyword .true] => some true
  | [.keyword .false] => some false
  | [.identifier name] => known name
  | .keyword .not :: condition => (known.value? condition).map (!·)
  | _ => none

/-- The constants behind a line that is selected. -/
def after (known : Constants) : Role → Constants
  | .definition name value =>
    match known.value? [value] with
    | some value => known.define name value
    | none => known
  | _ => known

end Constants

/-- A line is in order where it is carried out: its condition, or the value that it gives a name, is
known, and it is not refused. -/
def Role.IsSound (known : Constants) : Role → Prop
  | .definition _ value => ∃ truth, known.value? [value] = some truth
  | .opening condition | .elseIf condition => ∃ truth, known.value? condition = some truth
  | .refused => False
  | .text | .otherwise | .closing | .malformed => True

/-- What a part of a text comes to. -/
structure Selection where
  /-- The constants that are known behind it. -/
  known : Constants
  /-- The tokens that stay. -/
  kept : List Lexeme
  /-- The lines that are carried out, each with the constants that are known there. -/
  carriedOut : List (Constants × Role)

namespace Selection

/-- Every line that is carried out is in order. -/
def IsSound (selection : Selection) : Prop :=
  ∀ place ∈ selection.carriedOut, place.2.IsSound place.1

/-- One part of a text behind another. -/
def andThen (first : Selection) (next : Constants → Selection) : Selection :=
  let second := next first.known
  ⟨second.known, first.kept ++ second.kept, first.carriedOut ++ second.carriedOut⟩

/-- A line that is selected. Of a directive only the line break stays. -/
def line (line : Line) (known : Constants) : Selection :=
  ⟨known.after line.role, if line.role = .text then line else lineBreaks line,
    [(known, line.role)]⟩

/-- Lines that are not selected. -/
def unselected (lines : List Line) (known : Constants) : Selection :=
  ⟨known, lines.flatMap lineBreaks, []⟩

/-- A branch with a condition and the branches behind it, of which either it or one of them is
selected. -/
def branch (header : Line) (condition : List Token) (body : Constants → Selection)
    (bodyLines : List Line) (others : Constants → Selection) (otherLines : List Line)
    (known : Constants) : Selection :=
  (line header known).andThen fun known =>
    if known.value? condition = some true then
      (body known).andThen (unselected otherLines)
    else (unselected bodyLines known).andThen others

end Selection

mutual

/-- What a passage comes to where it is selected. -/
def Passage.selection : Passage → Constants → Selection
  | .nil => .unselected []
  | .line line _ rest => fun known => (Selection.line line known).andThen rest.selection
  | .choice opening condition _ body branches rest => fun known =>
    (Selection.branch opening condition body.selection body.lines branches.selection branches.lines
      known).andThen rest.selection

/-- What branches come to where none before them was selected. -/
def Branches.selection : Branches → Constants → Selection
  | .closing line _ => .line line
  | .elseIf line condition _ body branches =>
    .branch line condition body.selection body.lines branches.selection branches.lines
  | .otherwise line _ body closing _ => fun known =>
    (Selection.line line known).andThen fun known =>
      (body.selection known).andThen (Selection.line closing)

end

end BrightScript.Conditional
