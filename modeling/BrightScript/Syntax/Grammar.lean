import BrightScript.Syntax.Basic
import BrightScript.Syntax.Parser

/-!
The grammar of the language. A program is a list of statements, each ended by line breaks or
colons; expressions are read by binding power.
-/

open BrightScript.Parser

namespace BrightScript.Grammar

def newlines : Parser (List Unit) := many (expect .newline)

/-- One or more line breaks or colons, which end a statement. -/
def separator : Parser (List Unit) := many1 ((expect .newline).orElse (symbol .colon))

def literal : Parser Literal :=
  satisfy fun
    | .integer value => some (.integer value)
    | .float value => some (.float value)
    | .text value => some (.text value)
    | .keyword .true => some (.boolean true)
    | .keyword .false => some (.boolean false)
    | .keyword .invalid => some .invalid
    | _ => none

/-- An infix operator together with its binding power. -/
def infixOperator? : Token → Option (Nat × BinaryOperator)
  | .keyword .or => some (1, .or)
  | .keyword .and => some (2, .and)
  | .symbol .equal => some (4, .equal)
  | .symbol .notEqual => some (4, .notEqual)
  | .symbol .less => some (4, .less)
  | .symbol .lessOrEqual => some (4, .lessOrEqual)
  | .symbol .greater => some (4, .greater)
  | .symbol .greaterOrEqual => some (4, .greaterOrEqual)
  | .symbol .plus => some (5, .add)
  | .symbol .minus => some (5, .subtract)
  | .symbol .asterisk => some (6, .multiply)
  | .symbol .slash => some (6, .divide)
  | _ => none

/-- A prefix operator together with the binding power of its operand. -/
def unaryOperator? : Token → Option (Nat × UnaryOperator)
  | .keyword .not => some (3, .not)
  | .symbol .minus => some (7, .negate)
  | _ => none

section Expressions

variable (inner : Nat → Parser Expression)

/-- An array literal. Line breaks may stand around its items. -/
def array : Parser Expression := do
  let (span, items) ← spanned <|
    between
      (do symbol .squareOpen; newlines)
      (separatedByTrailing (inner 0) (do let _ ← newlines; symbol .comma; newlines))
      (do let breaks ← newlines; symbol .squareClose; return breaks)
  return .array span items

/-- The name and value of an entry in an associative array literal. -/
def entry : Parser (String × Expression) := do
  let key ← identifier.orElse text
  symbol .colon
  let value ← inner 0
  return (key, value)

/-- What stands between entries: a comma or line breaks. -/
def entrySeparator : Parser (List Unit) :=
  orElse (do symbol .comma; newlines) (many1 (expect .newline))

def table : Parser Expression := do
  let (span, entries) ← spanned <|
    between
      (do symbol .curlyOpen; newlines)
      (separatedByTrailing (entry inner) entrySeparator)
      (do let breaks ← newlines; symbol .curlyClose; return breaks)
  return .table span entries

/-- An operand without operators around it. A bracketed expression keeps its own place. -/
def atom : Parser Expression :=
  choice [
    do let (span, value) ← spanned literal; return .literal span value,
    do let (span, name) ← spanned identifier; return .variable span name,
    array inner,
    table inner,
    between (symbol .roundOpen) (inner 0) (symbol .roundClose)]

/-- What may follow an operand: a call or a member access. -/
inductive Suffix where
  | call (arguments : List Expression)
  | member (name : String)

def arguments : Parser Suffix := do
  let values ← between (symbol .roundOpen) (separatedBy (inner 0) (symbol .comma))
    (symbol .roundClose)
  return .call values

def memberAccess : Parser Suffix := do
  symbol .dot
  let name ← identifier
  return .member name

/-- Applies what follows an operand to it. -/
def Suffix.apply (span : Span) (object : Expression) : Suffix → Expression
  | .call arguments => .call span object arguments
  | .member name => .member span object name

/-- The source position of the next token. -/
def here : Parser Nat := fun input =>
  ⟨some ((input.head?.map (·.span.start)).getD 0, input), none⟩

/-- An operand with its calls and member accesses. -/
def chain : Parser Expression := do
  let start ← here
  let object ← atom inner
  let suffixes ← many (spanned ((arguments inner).orElse memberAccess))
  return suffixes.foldl (fun object suffix => suffix.2.apply ⟨start, suffix.1.stop⟩ object) object

/-- A prefix operator with its operand, which reaches as far as the operator binds. -/
def unary : Parser Expression := do
  let (span, operator, operand) ← spanned do
    let (power, operator) ← satisfy unaryOperator?
    let operand ← inner power
    return (operator, operand)
  return .unary span operator operand

/-- An infix operator that binds at least as tightly as `power`, with its right operand. -/
def infixStep (power : Nat) : Parser (BinaryOperator × Expression) := do
  let (strength, operator) ← satisfy fun token =>
    (infixOperator? token).filter fun (strength, _) => power ≤ strength
  let right ← inner (strength + 1)
  return (operator, right)

/-- Operands joined by operators that bind at least as tightly as `power`, grouped from the
left. -/
def operation (power : Nat) : Parser Expression := do
  let start ← here
  let first ← (unary inner).orElse (chain inner)
  let steps ← many (spanned (infixStep inner power))
  return steps.foldl
    (fun left step => .binary ⟨start, step.1.stop⟩ step.2.1 left step.2.2) first

end Expressions

def expression : Parser Expression := fix operation 0

/-- A library statement. Only libraries of the device can be named. -/
def library : Parser Statement := fun input =>
  let named : Parser (Span × String) := spanned do
    keyword .library
    text
  match named input with
  | ⟨none, failure⟩ => ⟨none, failure⟩
  | ⟨some ((span, path), rest), failure⟩ =>
    if (Library.ofPath? path).isSome then ⟨some (.library span path, rest), failure⟩
    else ⟨none, some ⟨input, some path⟩⟩

def print : Parser Statement := do
  let (span, values) ← spanned do
    keyword .print
    separatedByTrailing expression ((symbol .comma).orElse (symbol .semicolon))
  return .print span values

/-- A type after a parameter list or a parameter, which is read and forgotten. -/
def typeAnnotation : Parser Unit := do
  satisfy fun
    | .identifier word => if Name.same word "as" then some () else none
    | _ => none
  choice [do let _ ← identifier, keyword .function, keyword .invalid]

def parameters : Parser (List String) :=
  between (symbol .roundOpen)
    (separatedBy
      (do
        let name ← identifier
        let _ ← typeAnnotation.optional
        return name)
      (symbol .comma))
    (symbol .roundClose)

def returning : Parser Statement := do
  let (span, value) ← spanned do
    keyword .return
    expression.optional
  return .return span value

/-- A field in a component declaration. -/
def field : Parser (String × Expression) := do
  keyword .field
  let name ← identifier
  symbol .equal
  let value ← expression
  return (name, value)

def component : Parser Statement := do
  let (span, name, base, fields) ← spanned do
    keyword .component
    let name ← text
    let base ← optional (do keyword .extends; text)
    let _ ← separator
    let fields ← many (do
      let declared ← field
      let _ ← separator
      return declared)
    keyword .end
    keyword .component
    return (name, base, fields)
  return .component span name base fields

/-- The object that a path of members reaches from a variable. -/
def memberPath (root : Span × String) (path : List (Span × String)) : Expression :=
  path.foldl
    (fun object step => .member ⟨object.span.start, step.1.stop⟩ object step.2)
    (.variable root.1 root.2)

/-- An assignment to a variable, or to the last member of a path. -/
def assignment : Parser Statement := do
  let (span, root, path, value) ← spanned do
    let root ← spanned identifier
    let path ← many (do symbol .dot; spanned identifier)
    symbol .equal
    let value ← expression
    return (root, path, value)
  match path.getLast? with
  | none => return .assign span root.2 value
  | some last => return .assignMember span (memberPath root path.dropLast) last.2 value

section Statements

variable (statement : Parser Statement)

/-- A header is followed by a separator, and so is every statement of its body. -/
def block : Parser (List Statement) := do
  let _ ← separator
  many (do
    let inner ← statement
    let _ ← separator
    return inner)

/-- A condition and the statements under it. -/
def branch : Parser (Expression × List Statement) := do
  let condition ← expression
  let _ ← optional (keyword .then)
  let body ← block statement
  return (condition, body)

def conditional : Parser Statement := do
  let (span, branches, otherwise) ← spanned do
    keyword .if
    let first ← branch statement
    let others ← many (do
      (keyword .elseIf).orElse (do keyword .else; keyword .if)
      branch statement)
    let otherwise ← optional (do keyword .else; block statement)
    orElse (do keyword .end; keyword .if) (keyword .endIf)
    return (first :: others, otherwise)
  return .conditional span branches otherwise

/-- A function or sub declaration. -/
def function : Parser Statement := do
  let (span, isSub, name, names, body) ← spanned do
    let isSub ← orElse (do keyword .function; return false) (do keyword .sub; return true)
    let name ← identifier
    let names ← parameters
    let _ ← typeAnnotation.optional
    let body ← block statement
    keyword .end
    (keyword .function).orElse (keyword .sub)
    return (isSub, name, names, body)
  return .function span name names body isSub

/-- A statement, given the statements nested in it. -/
def statementOf : Parser Statement :=
  choice [
    library,
    print,
    conditional statement,
    function statement,
    returning,
    component,
    assignment,
    do let (span, value) ← spanned expression; return .expression span value]

end Statements

def statement : Parser Statement := fix (fun inner (_ : Unit) => statementOf (inner ())) ()

def program : Parser (List Statement) := do
  let _ ← separator.optional
  let statements ← many (do
    let read ← statement
    let _ ← separator.orElse (do atEnd; return [])
    return read)
  atEnd
  return statements

/-- Why a token list is no program, and where. -/
structure Error where
  span : Span
  found : Option Token
  library : Option String
  deriving DecidableEq, Repr

def Error.message (error : Error) : String :=
  match error.library, error.found with
  | some path, _ => "Unknown library '" ++ path ++ "'"
  | none, some token => "found '" ++ token.display ++ "'"
  | none, none => "found end of input"

/-- The error for a failed test in a token list. The end of the input lies behind its last token. -/
def errorOf (lexemes : List Lexeme) (failure : Failure) : Error :=
  match failure.rest with
  | lexeme :: _ => ⟨lexeme.span, some lexeme.token, failure.library⟩
  | [] =>
    let stop := (lexemes.getLast?.map (·.span.stop)).getD 0
    ⟨⟨stop, stop⟩, none, failure.library⟩

/-- Reads a token list as a program. -/
def parse (lexemes : List Lexeme) : Except Error (List Statement) :=
  match program lexemes with
  | ⟨some (statements, _), _⟩ => .ok statements
  | ⟨none, failure⟩ => .error (errorOf lexemes (failure.getD ⟨lexemes, none⟩))

end BrightScript.Grammar
