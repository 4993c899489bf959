import BrightScript.Pattern.CharSet

namespace BrightScript

/-- A test of a place between two characters. -/
inductive Assertion where
  | textStart
  | textEnd
  | lineStart
  | lineEnd
  /-- A line break may also be a carriage return, alone or before a line feed. -/
  | breakStart
  | breakEnd
  | boundary (unicode : Bool)
  | noBoundary (unicode : Bool)
  | wordStart (unicode : Bool)
  | wordEnd (unicode : Bool)
  | notAfterWord (unicode : Bool)
  | notBeforeWord (unicode : Bool)
  deriving DecidableEq, Repr

namespace Assertion

/-- Whether there is a word character. -/
def meetsWord (unicode : Bool) (c : Option Char) : Bool :=
  match c with
  | some c => if unicode then Text.isWord c else c.isAlphanum || c == '_'
  | none => false

/-- Whether the assertion holds between the characters `before` and `after`, of which the one at an
end of the text is missing. -/
def holds (before after : Option Char) : Assertion → Bool
  | textStart => before.isNone
  | textEnd => after.isNone
  | lineStart => before.isNone || before == some '\n'
  | lineEnd => after.isNone || after == some '\n'
  | breakStart =>
    before.isNone || before == some '\n' || (before == some '\r' && after != some '\n')
  | breakEnd =>
    after.isNone || after == some '\r' || (after == some '\n' && before != some '\r')
  | boundary unicode => meetsWord unicode before != meetsWord unicode after
  | noBoundary unicode => meetsWord unicode before == meetsWord unicode after
  | wordStart unicode => !meetsWord unicode before && meetsWord unicode after
  | wordEnd unicode => meetsWord unicode before && !meetsWord unicode after
  | notAfterWord unicode => !meetsWord unicode before
  | notBeforeWord unicode => !meetsWord unicode after

end Assertion

/-- A pattern. Earlier alternatives are preferred to later ones, and a greedy repetition prefers
to go on. -/
inductive Pattern where
  /-- The characters themselves. -/
  | literal (chars : List Char)
  /-- One character of a set, whose brackets are nested as deeply as given. -/
  | set (members : CharSet) (nesting : Nat)
  | assertion (test : Assertion)
  /-- A bracketed part; if it is numbered, the text it matches is remembered. -/
  | group (number : Option Nat) (inner : Pattern)
  | sequence (parts : List Pattern)
  | choice (alternatives : List Pattern)
  | repeated (inner : Pattern) (least : Nat) (most : Option Nat) (greedy : Bool)
  deriving Repr, Inhabited

namespace Pattern

mutual

/-- Whether every match takes at least one character. -/
def consumes : Pattern → Bool
  | .literal chars => !chars.isEmpty
  | .set _ _ => true
  | .assertion _ => false
  | .group _ inner => inner.consumes
  | .sequence parts => anyConsumes parts
  | .choice alternatives => allConsume alternatives
  | .repeated inner least _ _ => least != 0 && inner.consumes

/-- Whether some of the patterns takes a character in every match. -/
def anyConsumes : List Pattern → Bool
  | [] => false
  | part :: rest => part.consumes || anyConsumes rest

/-- Whether all patterns take a character in every match. -/
def allConsume : List Pattern → Bool
  | [] => true
  | part :: rest => part.consumes && allConsume rest

end

mutual

/-- Whether no match takes a character. -/
def isEmptyOnly : Pattern → Bool
  | .literal chars => chars.isEmpty
  | .set _ _ => false
  | .assertion _ => true
  | .group _ inner => inner.isEmptyOnly
  | .sequence parts => allEmptyOnly parts
  | .choice alternatives => allEmptyOnly alternatives
  | .repeated inner _ most _ => most == some 0 || inner.isEmptyOnly

/-- Whether no match of any of the patterns takes a character. -/
def allEmptyOnly : List Pattern → Bool
  | [] => true
  | part :: rest => part.isEmptyOnly && allEmptyOnly rest

end

mutual

/-- How deeply the parts of a pattern are nested. -/
def depth : Pattern → Nat
  | .literal _ => 0
  | .set _ nesting => nesting
  | .assertion _ => 0
  | .group _ inner => inner.depth + 1
  | .sequence parts => depths parts + (if parts.length < 2 then 0 else 1)
  | .choice alternatives => depths alternatives + (if alternatives.length < 2 then 0 else 1)
  | .repeated inner _ _ _ => inner.depth + 1

/-- The greatest depth among patterns. -/
def depths : List Pattern → Nat
  | [] => 0
  | part :: rest => max part.depth (depths rest)

end

end Pattern

end BrightScript
