import BrightScript.Library.Source
import BrightScript.Name
import BrightScript.Text.Blank

namespace BrightScript

/-- A bundled library. -/
inductive Library where
  | defender
  | core
  | ads
  deriving DecidableEq, Repr

namespace Library

/-- All libraries, in the order in which they are appended to a program. -/
def all : List Library := [.defender, .core, .ads]

/-- The path under which a program asks for a library. -/
def path : Library → String
  | .defender => "v30/bslDefender.brs"
  | .core => "v30/bslCore.brs"
  | .ads => "Roku_Ads.brs"

/-- The library with the given path, in any letter case and with blanks around it. -/
def ofPath? (path : String) : Option Library :=
  all.find? fun library => Name.same library.path (Text.trim path)

def source : Library → String
  | .defender => joinLines defenderLines
  | .core => joinLines coreLines
  | .ads => joinLines adsLines

end Library

/-- A set of libraries. -/
structure LibrarySet where
  defender : Bool := false
  core : Bool := false
  ads : Bool := false
  deriving DecidableEq, Repr

namespace LibrarySet

def empty : LibrarySet := {}

def insert (set : LibrarySet) : Library → LibrarySet
  | .defender => { set with defender := true }
  | .core => { set with core := true }
  | .ads => { set with ads := true }

def contains (set : LibrarySet) : Library → Bool
  | .defender => set.defender
  | .core => set.core
  | .ads => set.ads

def union (left right : LibrarySet) : LibrarySet :=
  ⟨left.defender || right.defender, left.core || right.core, left.ads || right.ads⟩

def isEmpty (set : LibrarySet) : Bool := !(set.defender || set.core || set.ads)

/-- The libraries of the set, in the order in which they are appended to a program. -/
def toList (set : LibrarySet) : List Library := Library.all.filter set.contains

/-- The set with the libraries that its members need: the display helpers use the core ones. -/
def closure (set : LibrarySet) : LibrarySet := { set with core := set.core || set.defender }

/-- The libraries to append to a program that asks for this set. -/
def resolve (set : LibrarySet) : List Library := set.closure.toList

end LibrarySet

end BrightScript
