import BrightScript.Text.Blank
import BrightScript.Text.Fold

namespace BrightScript

/-- A set of characters, as a pattern describes it. -/
inductive CharSet where
  | none
  | range (first last : Char)
  | word
  | digit
  | blank
  /-- The characters of a table. -/
  | table (members : Text.CodeTable)
  | complement (set : CharSet)
  | union (left right : CharSet)
  | intersection (left right : CharSet)
  | difference (left right : CharSet)
  | symmetricDifference (left right : CharSet)
  /-- Everything that differs from a member at most in case. -/
  | folded (set : CharSet)
  /-- The same for the letters of ASCII alone. -/
  | foldedAscii (set : CharSet)
  deriving DecidableEq, Repr, Inhabited

namespace CharSet

/-- Whether a character belongs to the set. -/
def contains : CharSet → Char → Bool
  | none, _ => false
  | range first last, c => first ≤ c && c ≤ last
  | word, c => Text.isWord c
  | digit, c => Text.isDecimal c
  | blank, c => Text.isBlank c
  | table members, c => members.contains c
  | complement set, c => !set.contains c
  | union left right, c => left.contains c || right.contains c
  | intersection left right, c => left.contains c && right.contains c
  | difference left right, c => left.contains c && !right.contains c
  | symmetricDifference left right, c => left.contains c != right.contains c
  | folded set, c => (Text.caseVariants c).any set.contains
  | foldedAscii set, c => set.contains c || set.contains c.toLower || set.contains c.toUpper

def single (c : Char) : CharSet := range c c

def unions (sets : List CharSet) : CharSet := sets.foldr union none

def ranges (bounds : List (Char × Char)) : CharSet :=
  unions (bounds.map fun bound => range bound.1 bound.2)

/-- The letters of ASCII in one of the cases, shifted to the other. -/
def otherCase (letters : Text.CodeRange) (shift : Nat → Nat) (members : Text.CodeTable) :
    Text.CodeTable :=
  Text.CodeTable.ofRanges ((members.intersection ⟨#[letters]⟩).ranges.toList.map fun range =>
    ⟨shift range.first, shift range.last⟩)

/-- The code points of the set. -/
def codes : CharSet → Text.CodeTable
  | none => ⟨#[]⟩
  | range first last => if first ≤ last then ⟨#[⟨first.toNat, last.toNat⟩]⟩ else ⟨#[]⟩
  | word => Text.CodeTable.ofRanges (Text.wordTables.flatMap fun members => members.ranges.toList)
  | digit => Text.decimalNumbers
  | blank => Text.whiteSpace
  | table members => members
  | complement set => set.codes.complement
  | union left right => left.codes.union right.codes
  | intersection left right => left.codes.intersection right.codes
  | difference left right => left.codes.difference right.codes
  | symmetricDifference left right => left.codes.symmetricDifference right.codes
  | folded set => Text.foldTable set.codes
  | foldedAscii set =>
    let members := set.codes
    (members.union (otherCase ⟨0x41, 0x5A⟩ (· + 32) members)).union
      (otherCase ⟨0x61, 0x7A⟩ (· - 32) members)

def all : CharSet := complement none

/-- The classes of ASCII characters that have a name. -/
def named? : String → Option CharSet
  | "alnum" => some (ranges [('0', '9'), ('A', 'Z'), ('a', 'z')])
  | "alpha" => some (ranges [('A', 'Z'), ('a', 'z')])
  | "ascii" => some (ranges [('\x00', '\x7f')])
  | "blank" => some (ranges [('\t', '\t'), (' ', ' ')])
  | "cntrl" => some (ranges [('\x00', '\x1f'), ('\x7f', '\x7f')])
  | "digit" => some (ranges [('0', '9')])
  | "graph" => some (ranges [('!', '~')])
  | "lower" => some (ranges [('a', 'z')])
  | "print" => some (ranges [(' ', '~')])
  | "punct" => some (ranges [('!', '/'), (':', '@'), ('[', '\x60'), ('\x7b', '~')])
  | "space" => some (ranges [('\t', '\r'), (' ', ' ')])
  | "upper" => some (ranges [('A', 'Z')])
  | "word" => some (ranges [('0', '9'), ('A', 'Z'), ('_', '_'), ('a', 'z')])
  | "xdigit" => some (ranges [('0', '9'), ('A', 'F'), ('a', 'f')])
  | _ => Option.none

end CharSet

end BrightScript
