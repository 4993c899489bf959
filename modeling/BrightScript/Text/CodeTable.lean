import BrightScript.Text.Split

namespace BrightScript.Text

/-- The code points from `first` to `last`. -/
structure CodeRange where
  first : Nat
  last : Nat
  deriving DecidableEq, Repr, Inhabited

/-- Whether a code point lies in the range. -/
def CodeRange.contains (range : CodeRange) (code : Nat) : Bool :=
  range.first ≤ code && code ≤ range.last

/-- A set of code points: disjoint ranges in ascending order. -/
structure CodeTable where
  ranges : Array CodeRange
  deriving DecidableEq, Repr, Inhabited

namespace CodeTable

/-- The number that hexadecimal digits stand for. -/
def hexValue (digits : List Char) : Nat :=
  digits.foldl (fun value d => value * 16 + (if d.isDigit then d.toNat - 48 else d.toNat - 55)) 0

/-- Every `step`-th of `count` code points from `first` on, each as a range of its own. -/
def stepped (first step : Nat) : Nat → List CodeRange
  | 0 => []
  | count + 1 => ⟨first, first⟩ :: stepped (first + step) step count

/-- The ranges of an entry: `F` is one code point, `F-L` all from `F` to `L`, and `F-L/S` every
`S`-th of them. -/
def entryRanges (entry : List Char) : List CodeRange :=
  match splitOnce '-' entry with
  | none => [⟨hexValue entry, hexValue entry⟩]
  | some (first, last) =>
    match splitOnce '/' last with
    | none => [⟨hexValue first, hexValue last⟩]
    | some (last, step) =>
      let first := hexValue first
      let step := hexValue step
      stepped first step ((hexValue last - first) / step + 1)

/-- The words of a text, between blanks and line breaks. `word` holds the characters of the word
being read, last first. -/
def words (word : List Char) : List Char → List (List Char)
  | [] => if word.isEmpty then [] else [word.reverse]
  | c :: rest =>
    if c = ' ' || c = '\n' then
      if word.isEmpty then words [] rest else word.reverse :: words [] rest
    else words (c :: word) rest

/-- The table of a text that lists its entries in ascending order. -/
def ofText (text : String) : CodeTable :=
  ⟨((words [] text.toList).flatMap entryRanges).toArray⟩

/-- Looks for a code point in the ranges with the numbers from `low` up to and without `high`. -/
def search (ranges : Array CodeRange) (code low high : Nat) : Bool :=
  if low < high then
    let middle := (low + high) / 2
    match ranges[middle]? with
    | some range =>
      if code < range.first then search ranges code low middle
      else if range.last < code then search ranges code (middle + 1) high
      else true
    | none => false
  else false
termination_by high - low

/-- Whether a character belongs to the set. -/
def contains (table : CodeTable) (c : Char) : Bool :=
  search table.ranges c.toNat 0 table.ranges.size

/-- The greatest code point. -/
def lastCode : Nat := 0x10FFFF

/-- Ranges in ascending order with those that meet or overlap made one. -/
def coalesce : List CodeRange → List CodeRange
  | first :: second :: rest =>
    if second.first ≤ first.last + 1 then
      coalesce (⟨first.first, max first.last second.last⟩ :: rest)
    else first :: coalesce (second :: rest)
  | short => short
termination_by ranges => ranges.length

/-- The set of all code points in given ranges, whose order does not matter. -/
def ofRanges (ranges : List CodeRange) : CodeTable :=
  ⟨(coalesce (ranges.mergeSort fun left right => left.first ≤ right.first)).toArray⟩

/-- The code points of either set. -/
def union (left right : CodeTable) : CodeTable :=
  ⟨(coalesce (List.merge left.ranges.toList right.ranges.toList
    fun left right => left.first ≤ right.first)).toArray⟩

/-- The ranges between ascending ranges, from `start` on. -/
def gaps (start : Nat) : List CodeRange → List CodeRange
  | [] => if start ≤ lastCode then [⟨start, lastCode⟩] else []
  | range :: rest =>
    if start < range.first then ⟨start, range.first - 1⟩ :: gaps (range.last + 1) rest
    else gaps (range.last + 1) rest

/-- The code points outside the set. -/
def complement (table : CodeTable) : CodeTable := ⟨(gaps 0 table.ranges.toList).toArray⟩

/-- The code points of both sets. -/
def intersection (left right : CodeTable) : CodeTable :=
  (left.complement.union right.complement).complement

/-- The code points of the left set that are not in the right one. -/
def difference (left right : CodeTable) : CodeTable := (left.complement.union right).complement

/-- The code points of exactly one of the sets. -/
def symmetricDifference (left right : CodeTable) : CodeTable :=
  (left.union right).difference (left.intersection right)

end CodeTable

end BrightScript.Text
