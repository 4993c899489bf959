import BrightScript.Name

/-!
Maps from names that remember the order of insertion. Two spellings are the same name when they
agree under `key`; the spelling of the first insertion is kept.
-/

namespace BrightScript

/-- A map from names, compared under `key`, in order of insertion. -/
structure Dictionary (key : String → String) (α : Type) where
  entries : List (String × α) := []
  deriving DecidableEq, Repr

/-- A map from names of the language, whose letter case does not matter. -/
abbrev NameMap := Dictionary Name.key

/-- A map from texts that must agree exactly. -/
abbrev TextMap := Dictionary id

namespace Dictionary

variable {key : String → String} {α : Type}

def empty : Dictionary key α := {}

instance : Inhabited (Dictionary key α) := ⟨empty⟩

/-- Puts a value under a name in a list of entries: in place where the name occurs, and otherwise
at the end. -/
def put (key : String → String) (name : String) (value : α) :
    List (String × α) → List (String × α)
  | [] => [(name, value)]
  | (spelling, old) :: rest =>
    if key spelling = key name then (spelling, value) :: rest
    else (spelling, old) :: put key name value rest

/-- Sets the value of a name, keeping its place and its first spelling. -/
def insert (map : Dictionary key α) (name : String) (value : α) : Dictionary key α :=
  ⟨put key name value map.entries⟩

def get? (map : Dictionary key α) (name : String) : Option α :=
  (map.entries.find? fun entry => key entry.1 == key name).map Prod.snd

def contains (map : Dictionary key α) (name : String) : Bool :=
  map.entries.any fun entry => key entry.1 == key name

/-- Removes a name; the others keep their order. -/
def erase (map : Dictionary key α) (name : String) : Dictionary key α :=
  ⟨map.entries.filter fun entry => key entry.1 != key name⟩

def size (map : Dictionary key α) : Nat := map.entries.length

def isEmpty (map : Dictionary key α) : Bool := map.entries.isEmpty

/-- The names as first spelled, in order of insertion. -/
def names (map : Dictionary key α) : List String := map.entries.map Prod.fst

/-- The values, in order of insertion of their names. -/
def values (map : Dictionary key α) : List α := map.entries.map Prod.snd

def insertMany (map : Dictionary key α) (entries : List (String × α)) : Dictionary key α :=
  entries.foldl (fun map entry => map.insert entry.1 entry.2) map

/-- The map with the given entries, inserted one after the other. -/
def ofList (entries : List (String × α)) : Dictionary key α := empty.insertMany entries

@[simp] theorem get?_empty (name : String) : (empty : Dictionary key α).get? name = none := rfl

theorem find?_put (name other : String) (value : α) (entries : List (String × α)) :
    ((put key name value entries).find? fun entry => key entry.1 == key other).map Prod.snd =
      if key other = key name then some value
      else (entries.find? fun entry => key entry.1 == key other).map Prod.snd := by
  induction entries with
  | nil =>
    by_cases h : key other = key name
    · simp [put, h]
    · simp [put, h, Ne.symm h]
  | cons entry rest ih =>
    obtain ⟨spelling, old⟩ := entry
    by_cases same : key spelling = key name
    · by_cases h : key other = key name
      · simp [put, same, h]
      · simp [put, same, h, Ne.symm h]
    · by_cases found : key spelling = key other
      · have h : ¬ key other = key name := fun h => same (found.trans h)
        simp [put, found, h]
      · simp only [put, same, if_false, List.find?_cons, beq_eq_false_iff_ne.mpr found, ih]

/-- A name has the value that it was given last, under whatever spelling. -/
theorem get?_insert (map : Dictionary key α) (name other : String) (value : α) :
    (map.insert name value).get? other =
      if key other = key name then some value else map.get? other :=
  find?_put name other value map.entries

theorem get?_insert_self (map : Dictionary key α) (name : String) (value : α) :
    (map.insert name value).get? name = some value := by
  rw [get?_insert, if_pos rfl]

theorem contains_eq_isSome_get? (map : Dictionary key α) (name : String) :
    map.contains name = (map.get? name).isSome := by
  rw [contains, get?, Option.isSome_map, Bool.eq_iff_iff, List.find?_isSome, List.any_eq_true]

end Dictionary

end BrightScript
