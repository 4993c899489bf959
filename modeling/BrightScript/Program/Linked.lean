import BrightScript.Conditional
import BrightScript.Diagnostic.Basic
import BrightScript.Syntax.Grammar
import BrightScript.Token.Scanner

/-!
Loading: turning the source units of a channel into one linked program. Each unit is scanned,
preprocessed and parsed; one that fails a stage is reported and left out, and loading itself never
fails. The libraries that the loaded units ask for are appended behind them.
-/

namespace BrightScript

/-- A source text handed over by the host. -/
structure SourceUnit where
  path : String
  text : String
  deriving DecidableEq, Repr

/-- The outcome of scanning a text. -/
structure Scanned where
  lexemes : List Lexeme
  errors : List Diagnostic

/-- The outcome of parsing tokens. -/
structure Parsed where
  statements : List Statement
  errors : List Diagnostic
  libraries : LibrarySet

/-- The three stages that a unit passes through. Each is given the path of the unit for its
diagnostics. -/
structure Stages where
  scan : (text path : String) → Scanned
  preprocess : List Lexeme → Manifest → (path : String) → Except (List Diagnostic) (List Lexeme)
  parse : List Lexeme → (path : String) → Parsed

namespace Stages

/-- Scans a text, leaving its comments out. -/
def scanText (text path : String) : Scanned :=
  let scan := Scanner.scan text
  ⟨scan.lexemes.filter (·.token ≠ .comment),
    scan.errors.map fun error => ⟨path, .scan, error.span, error.message, error.message⟩⟩

/-- Selects lines by conditional compilation. -/
def selectLines (lexemes : List Lexeme) (manifest : Manifest) (path : String) :
    Except (List Diagnostic) (List Lexeme) :=
  match Conditional.select manifest lexemes with
  | .ok kept => .ok kept
  | .error errors => .error <| errors.map fun error =>
      ⟨path, .preprocess, error.span, error.problem.message, error.problem.message⟩

/-- Parses tokens. A faulty unit has no statements and asks for no libraries. -/
def parseTokens (lexemes : List Lexeme) (path : String) : Parsed :=
  match Grammar.parse lexemes with
  | .ok statements => ⟨statements, [], requestedLibraries statements⟩
  | .error error => ⟨[], [⟨path, .parse, error.span, error.message, error.message⟩], .empty⟩

def standard : Stages := ⟨scanText, selectLines, parseTokens⟩

end Stages

/-- A unit after its stages. A failed one has no statements and asks for no libraries. -/
structure LoadedUnit where
  path : String
  statements : List Statement
  failed : Bool
  libraries : LibrarySet

/-- What the host can learn about a unit after linking. -/
structure UnitStatus where
  path : String
  failed : Bool
  statements : Nat
  libraries : LibrarySet
  deriving DecidableEq, Repr

/-- A linked program: its statements in order of execution, its units and its libraries. -/
structure LinkedProgram where
  statements : List Statement
  units : List UnitStatus
  libraries : List Library

/-- A diagnostic with the source text it is about. -/
structure Finding where
  diagnostic : Diagnostic
  source : String
  deriving DecidableEq, Repr

namespace LinkedProgram

/-- A unit that failed a stage. -/
def failedUnit (path : String) : LoadedUnit := ⟨path, [], true, .empty⟩

/-- Takes a unit through the stages, up to the first that fails. -/
def loadUnit (stages : Stages) (manifest : Manifest) (unit : SourceUnit) :
    LoadedUnit × List Diagnostic :=
  let scanned := stages.scan unit.text unit.path
  if !scanned.errors.isEmpty then (failedUnit unit.path, scanned.errors)
  else
    match stages.preprocess scanned.lexemes manifest unit.path with
    | .error errors => (failedUnit unit.path, errors)
    | .ok lexemes =>
      let parsed := stages.parse lexemes unit.path
      if !parsed.errors.isEmpty then (failedUnit unit.path, parsed.errors)
      else (⟨unit.path, parsed.statements, false, parsed.libraries⟩, [])

/-- The statements of a library, or why it does not load. Library texts have no directives. -/
def loadLibrary (stages : Stages) (library : Library) : List Statement × List Diagnostic :=
  let scanned := stages.scan library.source library.path
  if !scanned.errors.isEmpty then ([], scanned.errors)
  else
    let parsed := stages.parse scanned.lexemes library.path
    if !parsed.errors.isEmpty then ([], parsed.errors) else (parsed.statements, [])

/-- What the host can learn about a loaded unit. -/
def status (unit : LoadedUnit) : UnitStatus :=
  ⟨unit.path, unit.failed, unit.statements.length, unit.libraries⟩

def contributes (unit : LoadedUnit) : Bool := !unit.failed && !unit.statements.isEmpty

/-- Pairs diagnostics with their source text. -/
def findings (source : String) (diagnostics : List Diagnostic) : List Finding :=
  diagnostics.map (⟨·, source⟩)

/-- Joins loaded units and appends the libraries they ask for. Units without statements ask for
none. -/
def link (stages : Stages) (units : List LoadedUnit) : LinkedProgram × List Finding :=
  let contributing := units.filter contributes
  let requests := (contributing.map (·.libraries)).foldl LibrarySet.union .empty
  let libraries := requests.resolve
  let loaded := libraries.map (loadLibrary stages)
  (⟨contributing.flatMap (·.statements) ++ loaded.flatMap Prod.fst, units.map status, libraries⟩,
    (libraries.zip loaded).flatMap fun (library, _, errors) => findings library.source errors)

def load (stages : Stages) (manifest : Manifest) (units : List SourceUnit) :
    LinkedProgram × List Finding :=
  let loaded := units.map (loadUnit stages manifest)
  let (program, libraryFindings) := link stages (loaded.map Prod.fst)
  (program,
    ((units.zip loaded).flatMap fun (unit, _, errors) => findings unit.text errors) ++
      libraryFindings)

end LinkedProgram

end BrightScript
