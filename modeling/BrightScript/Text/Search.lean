namespace BrightScript.Text

/-- How many characters stand before the first occurrence of `needle`, after `skipped` others. -/
def indexFrom? (needle : List Char) (skipped : Nat) : List Char → Option Nat
  | [] => if needle.isEmpty then some skipped else none
  | c :: rest =>
    if needle.isPrefixOf (c :: rest) then some skipped else indexFrom? needle (skipped + 1) rest

/-- How many characters stand before the first occurrence of `needle`. -/
def indexOf? (needle text : List Char) : Option Nat := indexFrom? needle 0 text

/-- Replaces every occurrence of `needle`, from the left and without overlaps. `skip` characters
still belong to an occurrence that was replaced. -/
def replaceFrom (needle replacement : List Char) (skip : Nat) : List Char → List Char
  | [] => []
  | c :: rest =>
    match skip with
    | skip + 1 => replaceFrom needle replacement skip rest
    | 0 =>
      if needle.isPrefixOf (c :: rest) then
        replacement ++ replaceFrom needle replacement (needle.length - 1) rest
      else c :: replaceFrom needle replacement 0 rest

/-- Replaces every occurrence of a text that is not empty. -/
def replaceAll (needle replacement text : List Char) : List Char :=
  if needle.isEmpty then text else replaceFrom needle replacement 0 text

end BrightScript.Text
