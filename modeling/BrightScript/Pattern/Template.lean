import BrightScript.Pattern.Search

/-!
Replacing matches. A replacement names a group by a backslash and a digit; it is first brought into
the form of a template, in which a dollar sign marks what is to be filled in.
-/

namespace BrightScript.Pattern

/-- The template of a replacement: `\d` becomes the mark of group `d`, and a dollar sign is written
twice. -/
def template : List Char → List Char
  | [] => []
  | '\\' :: d :: rest =>
    if d.isDigit then '$' :: '\x7b' :: d :: '\x7d' :: template rest
    else '\\' :: template (d :: rest)
  | c :: rest => if c = '$' then '$' :: '$' :: template rest else c :: template rest

/-- Fills in a template: `$$` stands for a dollar sign, a digit in curly brackets behind a dollar
sign for the text of that group, and every other character for itself. -/
def expand (group : Nat → List Char) : List Char → List Char
  | '$' :: '$' :: rest => '$' :: expand group rest
  | '$' :: '\x7b' :: d :: '\x7d' :: rest =>
    if d.isDigit then group (d.toNat - '0'.toNat) ++ expand group rest
    else '$' :: '\x7b' :: d :: '\x7d' :: expand group rest
  | c :: rest => c :: expand group rest
  | [] => []

/-- The text with its first match, or all of its matches, replaced. -/
def replace (pattern : Pattern) (text replacement : String) (all : Bool) : String :=
  let chars := text.toList.toArray
  let found := if all then pattern.matchesIn chars else (pattern.find? chars).toList
  let fill (groups : List (List Char)) : List Char :=
    expand (fun i => groups.getD i []) (template replacement.toList)
  String.ofList (replaceMatches chars fill 0 found)

end BrightScript.Pattern
