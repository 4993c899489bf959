import BrightScript.Text.CaseTable

namespace BrightScript.Text

def upperChar (c : Char) : List Char :=
  match upperExpansions.lookup c.toNat with
  | some codes => codes.map Char.ofNat
  | none => [shifted upperRuns c]

/-- The lowercase form of one character that is not a capital sigma at the end of a word. -/
def lowerChar (c : Char) : List Char :=
  match lowerExpansions.lookup c.toNat with
  | some codes => codes.map Char.ofNat
  | none => [shifted lowerRuns c]

/-- Whether the nearest character that is not looked through has case. -/
def meetsCased (chars : List Char) : Bool :=
  match chars.dropWhile caseIgnorable.contains with
  | [] => false
  | c :: _ => cased.contains c

/-- The lowercase form of `rest`, where `before` holds the preceding characters, nearest first. -/
def lowerAfter (before : List Char) : List Char → List Char
  | [] => []
  | c :: rest =>
    let mapped :=
      if c = 'Σ' then [if meetsCased before && !meetsCased rest then 'ς' else 'σ']
      else if c.toNat < 128 then [c.toLower]
      else lowerChar c
    mapped ++ lowerAfter (c :: before) rest

def lower (text : String) : String := String.ofList (lowerAfter [] text.toList)

def upper (text : String) : String :=
  String.ofList (text.toList.flatMap fun c => if c.toNat < 128 then [c.toUpper] else upperChar c)

end BrightScript.Text
