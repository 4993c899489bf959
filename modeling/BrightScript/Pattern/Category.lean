import BrightScript.Pattern.CharSet

namespace BrightScript.CharSet

/-- Letters that have a case. -/
def casedLetters : CharSet :=
  unions [table Text.lowercaseLetters, table Text.uppercaseLetters, table Text.titlecaseLetters]

def letters : CharSet :=
  unions [casedLetters, table Text.modifierLetters, table Text.otherLetters]

def marks : CharSet :=
  unions [table Text.nonspacingMarks, table Text.spacingMarks, table Text.enclosingMarks]

def numerals : CharSet :=
  unions [table Text.decimalNumbers, table Text.letterNumbers, table Text.otherNumbers]

/-- Brackets and quotation marks. -/
def brackets : CharSet :=
  unions [table Text.openings, table Text.closings, table Text.initialQuotes,
    table Text.finalQuotes]

def punctuation : CharSet :=
  unions [table Text.connectors, table Text.dashPunctuation, brackets,
    table Text.otherPunctuation]

def symbols : CharSet :=
  unions [table Text.mathSymbols, table Text.currencySymbols, table Text.modifierSymbols,
    table Text.otherSymbols]

def separators : CharSet :=
  unions [table Text.spaceSeparators, table Text.lineSeparators, table Text.paragraphSeparators]

/-- Controls, format characters and characters for private use. -/
def controls : CharSet :=
  unions [table Text.controlCharacters, table Text.formatCharacters, table Text.privateUse]

/-- Characters that the standard gives a meaning. -/
def assigned : CharSet :=
  unions [letters, marks, numerals, punctuation, symbols, separators, controls]

/-- Characters that the standard gives no meaning. -/
def unassigned : CharSet := complement assigned

/-- Controls and characters without a meaning. -/
def others : CharSet := union controls unassigned

/-- The general category of a name in lower case without separators. Surrogates are no
characters. -/
def category? : String → Option CharSet
  | "l" | "letter" => some letters
  | "lc" | "casedletter" => some casedLetters
  | "lu" | "uppercaseletter" => some (table Text.uppercaseLetters)
  | "ll" | "lowercaseletter" => some (table Text.lowercaseLetters)
  | "lt" | "titlecaseletter" => some (table Text.titlecaseLetters)
  | "lm" | "modifierletter" => some (table Text.modifierLetters)
  | "lo" | "otherletter" => some (table Text.otherLetters)
  | "m" | "mark" | "combiningmark" => some marks
  | "mn" | "nonspacingmark" => some (table Text.nonspacingMarks)
  | "mc" | "spacingmark" => some (table Text.spacingMarks)
  | "me" | "enclosingmark" => some (table Text.enclosingMarks)
  | "n" | "number" => some numerals
  | "nd" | "decimalnumber" | "digit" => some (table Text.decimalNumbers)
  | "nl" | "letternumber" => some (table Text.letterNumbers)
  | "no" | "othernumber" => some (table Text.otherNumbers)
  | "p" | "punctuation" | "punct" => some punctuation
  | "pc" | "connectorpunctuation" => some (table Text.connectors)
  | "pd" | "dashpunctuation" => some (table Text.dashPunctuation)
  | "ps" | "openpunctuation" => some (table Text.openings)
  | "pe" | "closepunctuation" => some (table Text.closings)
  | "pi" | "initialpunctuation" => some (table Text.initialQuotes)
  | "pf" | "finalpunctuation" => some (table Text.finalQuotes)
  | "po" | "otherpunctuation" => some (table Text.otherPunctuation)
  | "s" | "symbol" => some symbols
  | "sm" | "mathsymbol" => some (table Text.mathSymbols)
  | "sc" | "currencysymbol" => some (table Text.currencySymbols)
  | "sk" | "modifiersymbol" => some (table Text.modifierSymbols)
  | "so" | "othersymbol" => some (table Text.otherSymbols)
  | "z" | "separator" => some separators
  | "zs" | "spaceseparator" => some (table Text.spaceSeparators)
  | "zl" | "lineseparator" => some (table Text.lineSeparators)
  | "zp" | "paragraphseparator" => some (table Text.paragraphSeparators)
  | "c" | "other" => some others
  | "cc" | "control" | "cntrl" => some (table Text.controlCharacters)
  | "cf" | "format" => some (table Text.formatCharacters)
  | "co" | "privateuse" => some (table Text.privateUse)
  | "cn" | "unassigned" => some unassigned
  | "any" => some all
  | "assigned" => some assigned
  | "ascii" => some (range '\x00' '\x7f')
  | _ => Option.none

end BrightScript.CharSet
