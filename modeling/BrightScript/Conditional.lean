import BrightScript.Dictionary
import BrightScript.Manifest
import BrightScript.Token.Basic

/-!
Conditional compilation. Lines that start with a directive choose which other lines of a source
text are kept; the line breaks of all lines stay.
-/

namespace BrightScript.Conditional

/-- What is wrong with a directive. -/
inductive Problem where
  | malformedConst
  | unknownConstant (name : String)
  | unexpectedToken (token : Token)
  | missingCondition
  | severalTokens
  | withoutIf (directive : String)
  | afterElse (directive : String)
  | malformedEnd (directive : String)
  | endWithoutIf
  | raised (tokens : List Token)
  | unknownDirective (name : String)
  | unterminated
  deriving DecidableEq, Repr

def Problem.message : Problem → String
  | .malformedConst => "Malformed #const, expected `#const name = value`"
  | .unknownConstant name => "Unknown conditional compilation constant '" ++ name ++ "'"
  | .unexpectedToken token => "Unexpected '" ++ token.display ++ "' in conditional compilation"
  | .missingCondition => "Missing conditional compilation expression"
  | .severalTokens => "Conditional compilation expects a single name or boolean"
  | .withoutIf directive => "#" ++ directive ++ " without matching #if"
  | .afterElse directive => "#" ++ directive ++ " after #else"
  | .malformedEnd directive => "Malformed #" ++ directive ++ ", expected `#end if`"
  | .endWithoutIf => "#end if without matching #if"
  | .raised tokens => "#error " ++ " ".intercalate (tokens.map Token.display)
  | .unknownDirective name => "Unknown directive #" ++ name
  | .unterminated => "Unterminated #if"

/-- A problem and the directive it was found at. -/
structure Error where
  span : Span
  problem : Problem
  deriving DecidableEq, Repr

/-- An `#if` that is not closed yet. -/
structure Branching where
  /-- The place of the `#if`. -/
  span : Span
  /-- Whether the text around the `#if` is selected. -/
  enclosing : Bool
  /-- Whether some branch was selected so far. -/
  taken : Bool
  /-- Whether the present branch is selected. -/
  active : Bool
  /-- Whether the `#else` was seen. -/
  sawElse : Bool
  deriving DecidableEq, Repr

/-- The constants defined so far and the open `#if`s, innermost first. -/
structure State where
  constants : NameMap Bool := .empty
  branchings : List Branching := []
  deriving DecidableEq, Repr

/-- Whether the present text is selected. -/
def State.active (state : State) : Bool :=
  match state.branchings with
  | [] => true
  | branching :: _ => branching.active

/-- The value of a condition: a truth value or a known name, behind any number of `not`. -/
def condition (constants : NameMap Bool) (manifest : Manifest) : List Token → Except Problem Bool
  | [] => .error .missingCondition
  | [token] =>
    match token with
    | .keyword .true => .ok true
    | .keyword .false => .ok false
    | .identifier name =>
      match (constants.get? name).or (manifest.flag? name) with
      | some value => .ok value
      | none => .error (.unknownConstant name)
    | _ => .error (.unexpectedToken token)
  | .keyword .not :: rest => (condition constants manifest rest).map (!·)
  | _ => .error .severalTokens

/-- A condition as a branch sees it: a faulty one counts as false. -/
def decided : Except Problem Bool → Bool × List Problem
  | .ok value => (value, [])
  | .error problem => (false, [problem])

def define (manifest : Manifest) (state : State) (arguments : List Token) :
    State × List Problem :=
  match arguments with
  | [.identifier name, .symbol .equal, value] =>
    match condition state.constants manifest [value] with
    | .ok value => (⟨state.constants.insert name value, state.branchings⟩, [])
    | .error problem => (state, [problem])
  | _ => (state, [.malformedConst])

/-- Opens an `#if`. Its condition is read only in selected text. -/
def openBranching (manifest : Manifest) (state : State) (span : Span) (arguments : List Token) :
    State × List Problem :=
  let active := state.active
  let (value, problems) :=
    if active then decided (condition state.constants manifest arguments) else (false, [])
  (⟨state.constants, ⟨span, active, value, active && value, false⟩ :: state.branchings⟩, problems)

/-- Goes to the next branch of the innermost `#if`: an `#elseif` with its condition, or the
`#else`. A condition after a selected branch is not read. -/
def nextBranch (manifest : Manifest) (state : State) (directive : String)
    (elseIf? : Option (List Token)) : State × List Problem :=
  match state.branchings with
  | [] => (state, [.withoutIf directive])
  | branching :: outer =>
    if branching.sawElse then (state, [.afterElse directive])
    else
      match elseIf? with
      | some arguments =>
        -- a condition that decides nothing is not read, so it may be wrong
        let (value, problems) :=
          if branching.enclosing && !branching.taken then
            decided (condition state.constants manifest arguments)
          else (false, [])
        let next := { branching with
          active := branching.enclosing && value
          taken := branching.taken || value }
        (⟨state.constants, next :: outer⟩, problems)
      | none =>
        let next := { branching with
          sawElse := true
          active := branching.enclosing && !branching.taken
          taken := true }
        (⟨state.constants, next :: outer⟩, [])

def closeBranching (state : State) (directive : String) (wellFormed : Bool) :
    State × List Problem :=
  if !wellFormed then (state, [.malformedEnd directive])
  else
    match state.branchings with
    | [] => (state, [.endWithoutIf])
    | _ :: outer => (⟨state.constants, outer⟩, [])

/-- Carries out a directive. Only the ones that open, switch and close branches count in text that
is not selected. -/
def obey (manifest : Manifest) (state : State) (span : Span) (directive : String)
    (arguments : List Token) : State × List Problem :=
  match directive with
  | "const" => if state.active then define manifest state arguments else (state, [])
  | "if" => openBranching manifest state span arguments
  | "elseif" => nextBranch manifest state directive (some arguments)
  | "else" =>
    match arguments with
    | .keyword .if :: rest => nextBranch manifest state directive (some rest)
    | _ => nextBranch manifest state directive none
  | "endif" => closeBranching state directive arguments.isEmpty
  | "end" => closeBranching state directive (arguments == [.keyword .if])
  | "error" => if state.active then (state, [.raised arguments]) else (state, [])
  | _ => if state.active then (state, [.unknownDirective directive]) else (state, [])

/-- Cuts tokens into lines; the line break ends its line. -/
def splitLines : List Lexeme → List (List Lexeme)
  | [] => []
  | lexeme :: rest =>
    if lexeme.token = .newline then [lexeme] :: splitLines rest
    else
      match splitLines rest with
      | [] => [[lexeme]]
      | line :: lines => (lexeme :: line) :: lines

def lineBreaks (line : List Lexeme) : List Lexeme := line.filter (·.token = .newline)

/-- What processing one line, or several, leads to. -/
structure Progress where
  state : State
  kept : List Lexeme
  errors : List Error
  deriving DecidableEq, Repr

def processLine (manifest : Manifest) (state : State) (line : List Lexeme) : Progress :=
  match line with
  | ⟨.directive directive, span⟩ :: rest =>
    let arguments := (rest.filter (·.token ≠ .newline)).map Lexeme.token
    let (next, problems) := obey manifest state span directive arguments
    ⟨next, lineBreaks line, problems.map (⟨span, ·⟩)⟩
  | _ => ⟨state, if state.active then line else lineBreaks line, []⟩

def processLines (manifest : Manifest) (state : State) : List (List Lexeme) → Progress
  | [] => ⟨state, [], []⟩
  | line :: lines =>
    let first := processLine manifest state line
    let others := processLines manifest first.state lines
    ⟨others.state, first.kept ++ others.kept, first.errors ++ others.errors⟩

/-- The tokens of the selected lines and all line breaks, or everything that is wrong with the
directives. Every `#if` that is left open is an error. -/
def select (manifest : Manifest) (lexemes : List Lexeme) : Except (List Error) (List Lexeme) :=
  let progress := processLines manifest {} (splitLines lexemes)
  let unclosed := progress.state.branchings.reverse.map (⟨·.span, .unterminated⟩)
  match progress.errors ++ unclosed with
  | [] => .ok progress.kept
  | errors => .error errors

end BrightScript.Conditional
