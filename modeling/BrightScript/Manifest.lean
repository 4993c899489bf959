import BrightScript.Name
import BrightScript.SortedMap
import BrightScript.Text.Blank
import BrightScript.Text.Split

namespace BrightScript

/-- The value of a manifest entry. -/
inductive ManifestValue where
  | bool (value : Bool)
  | text (value : String)
  deriving DecidableEq, Repr

def ManifestValue.display : ManifestValue → String
  | .bool value => if value then "true" else "false"
  | .text value => value

/-- The truth value that a text names, in any letter case. -/
def boolOfText? (text : String) : Option Bool :=
  if Name.key text = "true" then some true
  else if Name.key text = "false" then some false
  else none

/-- A manifest: entries by key. -/
structure Manifest where
  entries : SortedMap ManifestValue := .empty
  deriving DecidableEq, Repr

namespace Manifest

def empty : Manifest := {}

/-- Sets an entry; `true` and `false` in any letter case become booleans. -/
def set (manifest : Manifest) (key value : String) : Manifest :=
  let entry :=
    match boolOfText? value with
    | some flag => .bool flag
    | none => .text value
  ⟨manifest.entries.insert key entry⟩

/-- The entry with exactly this key. -/
def get? (manifest : Manifest) (key : String) : Option ManifestValue := manifest.entries.get? key

def isEmpty (manifest : Manifest) : Bool := manifest.entries.isEmpty

/-- The key and value of a manifest line. Blank lines, lines that start with `#` and lines without
`=` have none. -/
def lineEntry? (line : List Char) : Option (String × String) :=
  let line := Text.trimChars line
  if line.isEmpty || line.head? == some '#' then none
  else
    (Text.splitOnce '=' line).map fun (key, value) =>
      (String.ofList (Text.trimChars key), String.ofList (Text.trimChars value))

/-- Reads a manifest; of several lines with one key the last counts. -/
def parse (text : String) : Manifest :=
  ((Text.lines text.toList).filterMap lineEntry?).foldl
    (fun manifest entry => manifest.set entry.1 entry.2) empty

/-- The flag that one `name=value` pair of a `bs_const` entry gives to a name. -/
def pairFlag? (name : String) (pair : List Char) : Option Bool := do
  let (key, value) ← Text.splitOnce '=' pair
  if Name.same (String.ofList (Text.trimChars key)) name then
    boolOfText? (String.ofList (Text.trimChars value))
  else none

/-- The flag of a name in the `bs_const` entry: the first pair that gives it a truth value. -/
def constantFlag? (manifest : Manifest) (name : String) : Option Bool :=
  match manifest.get? "bs_const" with
  | some (.text constants) => (constants.toList.splitOn ';').findSome? (pairFlag? name)
  | _ => none

/-- The flag of a name among the boolean entries. -/
def entryFlag? (manifest : Manifest) (name : String) : Option Bool :=
  manifest.entries.entries.findSome? fun (key, value) =>
    match value with
    | .bool flag => if Name.same key name then some flag else none
    | .text _ => none

/-- The flag of a name: from the `bs_const` entry first, then from the boolean entries. -/
def flag? (manifest : Manifest) (name : String) : Option Bool :=
  (manifest.constantFlag? name).or (manifest.entryFlag? name)

end Manifest

end BrightScript
