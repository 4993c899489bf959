import BrightScript.Pattern.Break
import BrightScript.Text.AgeTable

namespace BrightScript.CharSet

def scriptNamed? (name : String) : Option Text.Script :=
  Text.scripts.find? (·.names.contains name)

def script? (name : String) : Option CharSet := (scriptNamed? name).map fun script =>
  table script.members

/-- The characters that are used with some script besides their own. -/
def borrowed : CharSet := unions (Text.scripts.map fun script => table script.borrowed)

/-- The characters that are used with a script. What belongs to all scripts, or takes the script of
the character before, is left out if it is used with particular ones. -/
def usedWith? (name : String) : Option CharSet := (scriptNamed? name).map fun script =>
  if script.names.contains "common" || script.names.contains "inherited" then
    difference (table script.members) borrowed
  else union (table script.members) (table script.borrowed)

/-- The characters that a version of the standard has. -/
def agedUpTo? (name : String) (earlier : CharSet) :
    List (List String × Text.CodeTable) → Option CharSet
  | [] => Option.none
  | (names, added) :: later =>
    let members := union earlier (table added)
    if names.contains name then some members else agedUpTo? name members later

/-- Whether a name starts with `is`, which says nothing. -/
def startsWithIs : List Char → Bool
  | first :: second :: _ => first.toLower == 'i' && second.toLower == 's'
  | _ => false

/-- The form under which the name of a property is looked up: without a leading `is`, in lower case
and without separators. -/
def propertyKey (name : List Char) : String :=
  let chars := if startsWithIs name then name.drop 2 else name
  let chars := (chars.filter fun c => c.toNat < 128 && c != ' ' && c != '_' && c != '-').map
    Char.toLower
  if startsWithIs name && chars == ['c'] then "isc" else String.ofList chars

/-- The characters with a property. A name of a property comes before that of a general category,
and that before the name of a script. -/
def property? (name : List Char) : Option CharSet :=
  let key := propertyKey name
  (trait? key <|> category? key) <|> script? key

/-- The characters with a value of a property. -/
def propertyValue? (name value : List Char) : Option CharSet :=
  let value := propertyKey value
  match propertyKey name with
  | "gc" | "generalcategory" => category? value
  | "sc" | "script" => script? value
  | "scx" | "scriptextensions" => usedWith? value
  | "age" => agedUpTo? value none Text.ages
  | "gcb" | "graphemeclusterbreak" => graphemeBreak? value
  | "wb" | "wordbreak" => wordBreak? value
  | "sb" | "sentencebreak" => sentenceBreak? value
  | _ => Option.none

end BrightScript.CharSet
