import BrightScript.Diagnostic.Basic
import BrightScript.Text.Blank
import BrightScript.Text.Width

namespace BrightScript.Report

/-- The characters that end a line of source text. -/
def isLineEnd (c : Char) : Bool :=
  c == '\n' || c == '\r' || c == '\x0b' || c == '\x0c' || c == '\u0085' || c == '\u2028' ||
    c == '\u2029'

/-- The lines of a source text with their line ends; a text without characters is one line. -/
def sourceLines : List Char → List (List Char)
  | [] => [[]]
  | ['\r', '\n'] => [['\r', '\n']]
  | '\r' :: '\n' :: rest => ['\r', '\n'] :: sourceLines rest
  | [c] => [[c]]
  | c :: rest =>
    if isLineEnd c then [c] :: sourceLines rest
    else
      match sourceLines rest with
      | [] => [[c]]
      | line :: lines => (c :: line) :: lines

/-- A line of a source text: its number from zero, the offset of its first character, and its
characters. -/
structure Line where
  number : Nat
  offset : Nat
  chars : List Char
  deriving DecidableEq, Repr

/-- Numbers lines and adds up their offsets. -/
def placeLines (number offset : Nat) : List (List Char) → List Line
  | [] => []
  | chars :: rest => ⟨number, offset, chars⟩ :: placeLines (number + 1) (offset + chars.length) rest

/-- The line that holds an offset. The end of the text belongs to its last line. -/
def lineAt? (source : List Char) (offset : Nat) : Option Line :=
  if offset ≤ source.length then
    ((placeLines 0 0 (sourceLines source)).filter (·.offset ≤ offset)).getLast?
  else none

/-- How many columns the character at a place of a line takes. A tab reaches to the next place that is
a multiple of four. -/
def charWidth (c : Char) (index : Nat) : Nat :=
  if c = '\t' then (index / 4 + 1) * 4 - index
  else if Text.isBlank c then 1
  else Text.displayWidth c

/-- The characters of a line as shown, from a place on: blanks become spaces. -/
def shownChars (index : Nat) : List Char → List Char
  | [] => []
  | c :: rest =>
    (if Text.isBlank c then List.replicate (charWidth c index) ' ' else [c]) ++
      shownChars (index + 1) rest

/-- Draws one row under a line: what stands at each place of the line, stretched to the width of the
character above it. -/
def drawRow (chars : List Char) (count : Nat) (mark : Nat → Char × Char) : List Char :=
  (List.range count).flatMap fun index =>
    let width := (chars[index]?.map (charWidth · index)).getD 1
    let (first, others) := mark index
    List.replicate (min width 1) first ++ List.replicate (width - 1) others

/-- The rows under a line that mark the part from `left` to `right` and give the reason. -/
def markRows (chars : List Char) (left right : Nat) (reason : String) : List String :=
  let attach := (left + right) / 2
  let count := right + 2
  let underline := drawRow chars count fun index =>
    if index = attach then if left < right then ('┬', '─') else ('│', ' ')
    else if left ≤ index ∧ index < right then ('─', '─')
    else (' ', ' ')
  let arrow := drawRow chars count fun index =>
    if index = attach then ('╰', '─') else if attach < index then ('─', '─') else (' ', ' ')
  [String.ofList underline, String.ofList arrow ++ " " ++ reason]

/-- The text of a report. A span outside the source leaves the headline alone, and a line that does
not hold the whole span is not shown. -/
def render (diagnostic : Diagnostic) (source : String) : String :=
  let headline := "Error: " ++ diagnostic.headline
  let start := diagnostic.span.start
  let stop := diagnostic.span.stop
  match lineAt? source.toList start, lineAt? source.toList (max start (stop - 1)) with
  | some line, some last =>
    let number := toString (line.number + 1)
    let width := (toString (last.number + 1)).length
    let margin := "".pushn ' ' (width + 2)
    let bar := margin ++ "│ "
    let left := start - line.offset
    let right := stop - line.offset
    let place := diagnostic.path ++ ":" ++ number ++ ":" ++ toString (left + 1)
    let shown :=
      if line.chars.length < right then [bar]
      else
        let chars := Text.trimEndChars line.chars
        let label := " " ++ "".pushn ' ' (width - number.length) ++ number
        (label ++ " │ " ++ String.ofList (shownChars 0 chars)) ::
          (markRows chars left right diagnostic.reason).map (bar ++ ·)
    "\n".intercalate
      ([headline, margin ++ "╭─[ " ++ place ++ " ]", margin ++ "│"] ++ shown ++
        ["".pushn '─' (width + 2) ++ "╯"])
  | _, _ => headline

end BrightScript.Report
