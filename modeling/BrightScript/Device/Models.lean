import BrightScript.SortedMap
import BrightScript.Text.Blank
import BrightScript.Text.Split

namespace BrightScript

/-- What is known about a model. -/
structure Model where
  name : String
  type : String
  generation : String
  resolution : String
  deriving DecidableEq, Repr

/-- Models by number. -/
structure ModelTable where
  models : SortedMap Model := .empty
  deriving DecidableEq, Repr

namespace ModelTable

/-- The model number and the model on a line of comma-separated columns. Lines with too few
columns have none, and further columns are ignored. -/
def lineModel? (line : List Char) : Option (String × Model) :=
  let line := Text.trimChars line
  if line.isEmpty then none
  else
    match (line.splitOn ',').map fun column => String.ofList (Text.trimChars column) with
    | number :: name :: type :: generation :: resolution :: _ =>
      some (number, ⟨name, type, generation, resolution⟩)
    | _ => none

/-- Reads a table, a model on each line; of several lines for one number the last counts. -/
def parse (table : String) : ModelTable :=
  ⟨SortedMap.ofList ((Text.lines table.toList).filterMap lineModel?)⟩

def get? (table : ModelTable) (number : String) : Option Model := table.models.get? number

def size (table : ModelTable) : Nat := table.models.size

def isEmpty (table : ModelTable) : Bool := table.models.isEmpty

/-- The lines of the table that comes with the device. -/
def bundledLines : List String := [
  "N1000,Roku Digital Video Player,STB,legacy,sd",
  "2400X,Roku LT,STB,classic,hd",
  "3100X,Roku 2 XS,STB,classic,fhd",
  "4200X,Roku 3,STB,classic,fhd",
  "3600X,Roku Streaming Stick,STICK,mid,fhd",
  "3900X,Roku Express,STB,mid,fhd",
  "4640X,Roku Ultra,STB,modern,uhd",
  "5000X,Roku TV,TV,mid,fhd",
  "7000X,Roku 4K TV,TV,modern,uhd",
  "8000X,Roku TV,TV,modern,uhd"]

/-- The table that comes with the device. -/
def bundled : ModelTable := parse ("\n".intercalate bundledLines)

end ModelTable

end BrightScript
