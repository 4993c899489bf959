import BrightScript.Decimal.Shortest
import BrightScript.Name
import BrightScript.Span

namespace BrightScript

/-- Punctuation and operators. -/
inductive Symbol where
  | roundOpen
  | roundClose
  | squareOpen
  | squareClose
  | curlyOpen
  | curlyClose
  | colon
  | semicolon
  | comma
  | dot
  | notEqual
  | greaterOrEqual
  | greater
  | lessOrEqual
  | less
  | equal
  | minus
  | plus
  | asterisk
  | slash
  deriving DecidableEq, Repr

/-- How a symbol is written. -/
def Symbol.text : Symbol → String
  | roundOpen => "("
  | roundClose => ")"
  | squareOpen => "["
  | squareClose => "]"
  | curlyOpen => "\x7b"
  | curlyClose => "\x7d"
  | colon => ":"
  | semicolon => ";"
  | comma => ","
  | dot => "."
  | notEqual => "<>"
  | greaterOrEqual => ">="
  | greater => ">"
  | lessOrEqual => "<="
  | less => "<"
  | equal => "="
  | minus => "-"
  | plus => "+"
  | asterisk => "*"
  | slash => "/"

/-- Reserved words. -/
inductive Keyword where
  | true
  | false
  | invalid
  | and
  | or
  | not
  | if
  | then
  | else
  | elseIf
  | endIf
  | end
  | function
  | sub
  | return
  | print
  | library
  | component
  | extends
  | field
  deriving DecidableEq, Repr

/-- A reserved word in lower case. -/
def Keyword.text : Keyword → String
  | .true => "true"
  | .false => "false"
  | .invalid => "invalid"
  | .and => "and"
  | .or => "or"
  | .not => "not"
  | .if => "if"
  | .then => "then"
  | .else => "else"
  | .elseIf => "elseif"
  | .endIf => "endif"
  | .end => "end"
  | .function => "function"
  | .sub => "sub"
  | .return => "return"
  | .print => "print"
  | .library => "library"
  | .component => "component"
  | .extends => "extends"
  | .field => "field"

/-- All reserved words. -/
def Keyword.all : List Keyword :=
  [.true, .false, .invalid, .and, .or, .not, .if, .then, .else, .elseIf, .endIf, .end, .function,
    .sub, .return, .print, .library, .component, .extends, .field]

/-- The reserved word with the given spelling, in any letter case. -/
def Keyword.ofWord? (word : String) : Option Keyword :=
  Keyword.all.find? fun keyword => keyword.text == Name.key word

/-- One word of a source text. A directive is held in lower case and without its `#`; an
identifier may end in a type mark. -/
inductive Token where
  | symbol (symbol : Symbol)
  | keyword (keyword : Keyword)
  | integer (value : Int64)
  | float (value : Float)
  | text (value : String)
  | identifier (name : String)
  | directive (name : String)
  | newline
  | comment
  deriving DecidableEq, Repr

/-- How messages show a token. -/
def Token.display : Token → String
  | .symbol mark => mark.text
  | .keyword word => word.text
  | .integer value => toString value.toInt
  | .float value => Decimal.text value
  | .text value => "\"" ++ value ++ "\""
  | .identifier name => name
  | .directive name => "#" ++ name
  | .newline => "\n"
  | .comment => "'"

/-- A token together with its place. -/
structure Lexeme where
  token : Token
  span : Span
  deriving DecidableEq, Repr

end BrightScript
