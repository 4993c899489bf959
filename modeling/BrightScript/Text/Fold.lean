import BrightScript.Text.CaseTable
import BrightScript.Text.LetterTable
import BrightScript.Text.SymbolTable
import BrightScript.Text.TraitTable

namespace BrightScript.Text

/-- The representative of a character among those that differ from it only in case. -/
def foldChar (c : Char) : Char := shifted foldRuns c

/-- The characters that differ from `c` at most in case. -/
def caseVariants (c : Char) : List Char :=
  let folded := foldChar c
  folded :: preimages foldRuns folded

/-- A set together with all code points that differ from one of its members only in case. -/
def foldTable (table : CodeTable) : CodeTable :=
  let isMember (code : Nat) : Bool := CodeTable.search table.ranges code 0 table.ranges.size
  let pairs := foldRuns.toList.flatMap ShiftRun.pairs
  let hits := CodeTable.ofRanges ((pairs.filter fun pair => isMember pair.1 || isMember pair.2).map
    fun pair => ⟨pair.2, pair.2⟩)
  let isHit (code : Nat) : Bool := CodeTable.search hits.ranges code 0 hits.ranges.size
  (table.union hits).union
    (CodeTable.ofRanges ((pairs.filter fun pair => isHit pair.2).map fun pair => ⟨pair.1, pair.1⟩))

/-- The sets whose members words are made of: letters and what is used like them, marks, digits,
connectors and joiners. -/
def wordTables : List CodeTable :=
  [lowercaseLetters, uppercaseLetters, otherLetters, nonspacingMarks, spacingMarks, decimalNumbers,
    modifierLetters, titlecaseLetters, letterNumbers, enclosingMarks, otherAlphabetic, connectors,
    joinControls]

/-- What words are made of. -/
def isWord (c : Char) : Bool :=
  if c.toNat < 128 then c.isAlphanum || c == '_' else wordTables.any (·.contains c)

/-- Decimal digits of any script. -/
def isDecimal (c : Char) : Bool :=
  if c.toNat < 128 then c.isDigit else decimalNumbers.contains c

end BrightScript.Text
