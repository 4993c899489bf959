import BrightScript.Token.Basic

/-!
Parsers over tokens: ordered choice with backtracking. A parser takes tokens off the front of its
input or fails, and in either case tells the furthest token at which one of its tests failed, which
is where a program that has no parse is reported.
-/

namespace BrightScript

/-- A failed test: the tokens from the one it was made at, and the path of an unknown library if
that was the reason. -/
structure Failure where
  rest : List Lexeme
  library : Option String := none
  deriving DecidableEq, Repr

namespace Failure

/-- The source position of a failed test; the end of the input has none. -/
def position (failure : Failure) : Option Nat := failure.rest.head?.map (·.span.start)

/-- The failure with the later position. At one position an unknown library goes first. -/
def further (left right : Failure) : Failure :=
  let same := if left.library.isSome then left else right
  match left.position, right.position with
  | none, none => same
  | none, some _ => left
  | some _, none => right
  | some a, some b => if a < b then right else if b < a then left else same

/-- The later of two failures, where there may be none. -/
def furtherOf : Option Failure → Option Failure → Option Failure
  | none, failure => failure
  | failure, none => failure
  | some left, some right => some (left.further right)

end Failure

/-- What a parser makes of its input: a value and the tokens left, or nothing, and the furthest
failed test. -/
structure Reply (α : Type) where
  result : Option (α × List Lexeme)
  failure : Option Failure

/-- A parser of values of type `α`. -/
def Parser (α : Type) : Type := List Lexeme → Reply α

namespace Parser

variable {α β : Type}

/-- Takes nothing. -/
def succeed (value : α) : Parser α := fun input => ⟨some (value, input), none⟩

/-- Fails at the next token. -/
def fail : Parser α := fun input => ⟨none, some ⟨input, none⟩⟩

/-- Runs a parser and then another that depends on its value. -/
def andThen (first : Parser α) (next : α → Parser β) : Parser β := fun input =>
  match first input with
  | ⟨none, failure⟩ => ⟨none, failure⟩
  | ⟨some (value, rest), failure⟩ =>
    let reply := next value rest
    ⟨reply.result, Failure.furtherOf failure reply.failure⟩

instance : Monad Parser where
  pure := succeed
  bind := andThen

/-- Runs the second parser where the first fails. -/
def orElse (first second : Parser α) : Parser α := fun input =>
  match first input with
  | ⟨some result, failure⟩ => ⟨some result, failure⟩
  | ⟨none, failure⟩ =>
    let reply := second input
    ⟨reply.result, Failure.furtherOf failure reply.failure⟩

/-- The first parser of a list that does not fail. -/
def choice : List (Parser α) → Parser α
  | [] => fail
  | [parser] => parser
  | parser :: parsers => parser.orElse (choice parsers)

/-- Runs a parser where it does not fail. -/
def optional (parser : Parser α) : Parser (Option α) := (some <$> parser).orElse (succeed none)

/-- Takes one token that the test accepts. -/
def satisfy (test : Token → Option α) : Parser α
  | [] => ⟨none, some ⟨[], none⟩⟩
  | lexeme :: rest =>
    match test lexeme.token with
    | some value => ⟨some (value, rest), none⟩
    | none => ⟨none, some ⟨lexeme :: rest, none⟩⟩

def expect (token : Token) : Parser Unit := satisfy fun found => if found = token then some () else none

def symbol (symbol : Symbol) : Parser Unit := expect (.symbol symbol)

def keyword (keyword : Keyword) : Parser Unit := expect (.keyword keyword)

def identifier : Parser String :=
  satisfy fun
    | .identifier name => some name
    | _ => none

def text : Parser String :=
  satisfy fun
    | .text value => some value
    | _ => none

/-- Succeeds at the end of the input only. -/
def atEnd : Parser Unit
  | [] => ⟨some ((), []), none⟩
  | input => ⟨none, some ⟨input, none⟩⟩

/-- Runs a parser as often as it takes something. -/
def many (parser : Parser α) (input : List Lexeme) : Reply (List α) :=
  match parser input with
  | ⟨none, failure⟩ => ⟨some ([], input), failure⟩
  | ⟨some (value, rest), failure⟩ =>
    if rest.length < input.length then
      let reply := many parser rest
      ⟨reply.result.map fun (values, rest) => (value :: values, rest),
        Failure.furtherOf failure reply.failure⟩
    else ⟨some ([], input), failure⟩
termination_by input.length

/-- Runs a parser at least once. -/
def many1 (parser : Parser α) : Parser (List α) := do
  let first ← parser
  let others ← many parser
  return first :: others

/-- Items with separators between them, possibly none. -/
def separatedBy (item : Parser α) (separator : Parser β) : Parser (List α) := do
  match ← item.optional with
  | none => return []
  | some first =>
    let others ← many (do
      let _ ← separator
      item)
    return first :: others

/-- Items with separators between them; after the last item a separator may follow. -/
def separatedByTrailing (item : Parser α) (separator : Parser β) : Parser (List α) := do
  let items ← separatedBy item separator
  if !items.isEmpty then
    let _ ← separator.optional
  return items

/-- Runs a parser between two others. -/
def between (opening : Parser β) (parser : Parser α) (closing : Parser β) : Parser α := do
  let _ ← opening
  let value ← parser
  let _ ← closing
  return value

/-- The source text that a list of tokens covers. -/
def cover (lexemes : List Lexeme) : Span :=
  ⟨(lexemes.head?.map (·.span.start)).getD 0, (lexemes.getLast?.map (·.span.stop)).getD 0⟩

/-- Adds the source text of the tokens that a parser took. -/
def spanned (parser : Parser α) : Parser (Span × α) := fun input =>
  match parser input with
  | ⟨none, failure⟩ => ⟨none, failure⟩
  | ⟨some (value, rest), failure⟩ =>
    ⟨some ((cover (input.take (input.length - rest.length)), value), rest), failure⟩

/-- A recursive family of parsers. A member may call the others only on what is left after taking
a token, so every run ends. -/
def fix {ι : Type} (family : (ι → Parser α) → ι → Parser α) (index : ι) (input : List Lexeme) :
    Reply α :=
  family
    (fun next inner =>
      if _h : inner.length < input.length then fix family next inner else fail inner)
    index input
termination_by input.length

end Parser

end BrightScript
