import BrightScript.Library.Basic
import BrightScript.Span

namespace BrightScript

/-- A constant written in the program. -/
inductive Literal where
  | boolean (value : Bool)
  | integer (value : Int64)
  | float (value : Float)
  | text (value : String)
  | invalid
  deriving DecidableEq, Repr

/-- Operators between two operands. -/
inductive BinaryOperator where
  | or
  | and
  | equal
  | notEqual
  | less
  | lessOrEqual
  | greater
  | greaterOrEqual
  | add
  | subtract
  | multiply
  | divide
  deriving DecidableEq, Repr

def BinaryOperator.text : BinaryOperator → String
  | .or => "or"
  | .and => "and"
  | .equal => "="
  | .notEqual => "<>"
  | .less => "<"
  | .lessOrEqual => "<="
  | .greater => ">"
  | .greaterOrEqual => ">="
  | .add => "+"
  | .subtract => "-"
  | .multiply => "*"
  | .divide => "/"

/-- Operators before one operand. -/
inductive UnaryOperator where
  | not
  | negate
  deriving DecidableEq, Repr

def UnaryOperator.text : UnaryOperator → String
  | .not => "not"
  | .negate => "-"

/-- An expression. -/
inductive Expression where
  | literal (span : Span) (value : Literal)
  | variable (span : Span) (name : String)
  | array (span : Span) (items : List Expression)
  | table (span : Span) (entries : List (String × Expression))
  | call (span : Span) (callee : Expression) (arguments : List Expression)
  | member (span : Span) (object : Expression) (name : String)
  | binary (span : Span) (operator : BinaryOperator) (left right : Expression)
  | unary (span : Span) (operator : UnaryOperator) (operand : Expression)
  deriving Repr

def Expression.span : Expression → Span
  | .literal span _ | .variable span _ | .array span _ | .table span _ | .call span _ _
  | .member span _ _ | .binary span _ _ _ | .unary span _ _ => span

/-- A statement. -/
inductive Statement where
  | library (span : Span) (path : String)
  | print (span : Span) (values : List Expression)
  | assign (span : Span) (name : String) (value : Expression)
  | assignMember (span : Span) (object : Expression) (name : String) (value : Expression)
  | expression (span : Span) (value : Expression)
  | conditional (span : Span) (branches : List (Expression × List Statement))
      (otherwise : Option (List Statement))
  | function (span : Span) (name : String) (parameters : List String) (body : List Statement)
      (isSub : Bool)
  | return (span : Span) (value : Option Expression)
  | component (span : Span) (name : String) (base : Option String)
      (fields : List (String × Expression))
  deriving Repr

def Statement.span : Statement → Span
  | .library span _ | .print span _ | .assign span _ _ | .assignMember span _ _ _
  | .expression span _ | .conditional span _ _ | .function span _ _ _ _ | .return span _
  | .component span _ _ _ => span

/-- The library that a statement asks for. -/
def Statement.library? : Statement → Option Library
  | .library _ path => Library.ofPath? path
  | _ => none

/-- The libraries that the statements of a unit ask for, those nested in others not counted. -/
def requestedLibraries (statements : List Statement) : LibrarySet :=
  (statements.filterMap Statement.library?).foldl LibrarySet.insert .empty

end BrightScript
