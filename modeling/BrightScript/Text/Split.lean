namespace BrightScript.Text

/-- The parts before and after the first `mark`, or `none` if it does not occur. -/
def splitOnce (mark : Char) (chars : List Char) : Option (List Char × List Char) :=
  match chars.dropWhile (· != mark) with
  | [] => none
  | _ :: rest => some (chars.takeWhile (· != mark), rest)

/-- A line without the carriage return that stood before its line feed. -/
def dropCarriageReturn (line : List Char) : List Char :=
  if line.getLast? = some '\r' then line.dropLast else line

/-- The lines of a text. A final line feed opens no further line, and a carriage return counts
as part of the line break only before a line feed. -/
def lines (chars : List Char) : List (List Char) :=
  let parts := chars.splitOn '\n'
  let whole := parts.dropLast.map dropCarriageReturn
  match parts.getLast? with
  | some (c :: rest) => whole ++ [c :: rest]
  | _ => whole

/-- The part of a text before its first line feed. -/
def firstLine (text : String) : String := String.ofList (text.toList.takeWhile (· != '\n'))

end BrightScript.Text
