import BrightScript.Decimal.Shortest

namespace BrightScript

/-- A document. Whole numbers are kept apart from floating-point numbers, and an object keeps its
members in order, repeated names included. -/
inductive Json where
  | null
  | bool (value : Bool)
  | integer (value : Int)
  | float (value : Float)
  | text (value : String)
  | array (items : List Json)
  | object (members : List (String × Json))
  /-- A text that writes half a character, or an object with such a name. It can be skipped, but
  not read, and is never written. -/
  | unreadable
  deriving Repr, Inhabited

namespace Json

def hexDigit (value : Nat) : Char :=
  if value < 10 then Char.ofNat (48 + value) else Char.ofNat (87 + value)

/-- A character inside a quoted text. Quotes, backslashes and control characters are escaped. -/
def escapeChar (c : Char) : List Char :=
  if c = '"' then ['\\', '"']
  else if c = '\\' then ['\\', '\\']
  else if c = '\n' then ['\\', 'n']
  else if c = '\t' then ['\\', 't']
  else if c = '\r' then ['\\', 'r']
  else if c = '\x08' then ['\\', 'b']
  else if c = '\x0c' then ['\\', 'f']
  else if c.toNat < 32 then
    ['\\', 'u', '0', '0', hexDigit (c.toNat / 16), hexDigit (c.toNat % 16)]
  else [c]

def quote (value : String) : String :=
  String.ofList ('"' :: value.toList.flatMap escapeChar ++ ['"'])

/-- A floating-point number as a document: numbers that are not finite have no written form. -/
def ofFloat (value : Float) : Json :=
  if (Decimal.exchangeText? value).isSome then .float value else .null

/-- A line break and the indentation of a nesting level. -/
def newLine (level : Nat) : String := "\n" ++ "".pushn ' ' (2 * level)

mutual

/-- Writes a document over several lines, two spaces for each nesting level. -/
def prettyAt (level : Nat) : Json → String
  | .null => "null"
  | .bool value => if value then "true" else "false"
  | .integer value => toString value
  | .float value => (Decimal.exchangeText? value).getD "null"
  | .text value => quote value
  | .unreadable => "null"
  | .array [] => "[]"
  | .array items => "[" ++ prettyItems (level + 1) "" items ++ newLine level ++ "]"
  | .object [] => "\x7b\x7d"
  | .object members => "\x7b" ++ prettyMembers (level + 1) "" members ++ newLine level ++ "\x7d"

/-- Writes the items of an array, each after the separator and a line break. -/
def prettyItems (level : Nat) (separator : String) : List Json → String
  | [] => ""
  | item :: items =>
    separator ++ newLine level ++ prettyAt level item ++ prettyItems level "," items

/-- Writes the members of an object, each after the separator and a line break. -/
def prettyMembers (level : Nat) (separator : String) : List (String × Json) → String
  | [] => ""
  | (name, value) :: members =>
    separator ++ newLine level ++ quote name ++ ": " ++ prettyAt level value ++
      prettyMembers level "," members

end

/-- Writes a document over several lines. -/
def pretty (document : Json) : String := prettyAt 0 document

mutual

/-- Writes a document on one line. -/
def compact : Json → String
  | .null => "null"
  | .bool value => if value then "true" else "false"
  | .integer value => toString value
  | .float value => (Decimal.exchangeText? value).getD "null"
  | .text value => quote value
  | .unreadable => "null"
  | .array items => "[" ++ compactItems "" items ++ "]"
  | .object members => "\x7b" ++ compactMembers "" members ++ "\x7d"

/-- Writes the items of an array, each after the separator. -/
def compactItems (separator : String) : List Json → String
  | [] => ""
  | item :: items => separator ++ compact item ++ compactItems "," items

/-- Writes the members of an object, each after the separator. -/
def compactMembers (separator : String) : List (String × Json) → String
  | [] => ""
  | (name, value) :: members =>
    separator ++ quote name ++ ":" ++ compact value ++ compactMembers "," members

end

/-- The last value given for a name, if the document is an object that has it. -/
def member? (document : Json) (name : String) : Option Json :=
  match document with
  | .object members => (members.reverse.find? (·.1 == name)).map (·.2)
  | _ => none

end Json

end BrightScript
