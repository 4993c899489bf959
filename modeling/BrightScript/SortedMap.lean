namespace BrightScript

/-- A map from texts, kept in ascending order. -/
structure SortedMap (α : Type) where
  entries : List (String × α) := []
  deriving DecidableEq, Repr

namespace SortedMap

variable {α : Type}

def empty : SortedMap α := {}

instance : Inhabited (SortedMap α) := ⟨empty⟩

/-- Puts a value under a text in an ascending list of entries. -/
def put (name : String) (value : α) : List (String × α) → List (String × α)
  | [] => [(name, value)]
  | (other, old) :: rest =>
    if name < other then (name, value) :: (other, old) :: rest
    else if name = other then (name, value) :: rest
    else (other, old) :: put name value rest

def insert (map : SortedMap α) (name : String) (value : α) : SortedMap α :=
  ⟨put name value map.entries⟩

def get? (map : SortedMap α) (name : String) : Option α := map.entries.lookup name

def contains (map : SortedMap α) (name : String) : Bool := map.entries.any (·.1 == name)

def size (map : SortedMap α) : Nat := map.entries.length

def isEmpty (map : SortedMap α) : Bool := map.entries.isEmpty

def names (map : SortedMap α) : List String := map.entries.map Prod.fst

/-- The map with the given entries, inserted one after the other. -/
def ofList (entries : List (String × α)) : SortedMap α :=
  entries.foldl (fun map entry => map.insert entry.1 entry.2) empty

@[simp] theorem get?_empty (name : String) : (empty : SortedMap α).get? name = none := rfl

theorem lookup_put (name other : String) (value : α) (entries : List (String × α)) :
    (put name value entries).lookup other =
      if other = name then some value else entries.lookup other := by
  by_cases h : other = name
  · subst h
    rw [if_pos rfl]
    induction entries with
    | nil => simp [put]
    | cons entry rest ih =>
      unfold put
      split
      · simp
      · split
        · simp
        · rename_i differs
          rw [List.lookup_cons, beq_eq_false_iff_ne.mpr differs]
          exact ih
  · have missing : (other == name) = false := beq_eq_false_iff_ne.mpr h
    rw [if_neg h]
    induction entries with
    | nil => simp [put, List.lookup_cons, missing]
    | cons entry rest ih =>
      obtain ⟨spelling, old⟩ := entry
      unfold put
      split
      · simp only [List.lookup_cons, missing]
      · split
        · rename_i same
          simp only [List.lookup_cons, ← same, missing]
        · simp only [List.lookup_cons, ih]

/-- A text has the value that it was given last. -/
theorem get?_insert (map : SortedMap α) (name other : String) (value : α) :
    (map.insert name value).get? other = if other = name then some value else map.get? other :=
  lookup_put name other value map.entries

theorem contains_eq_isSome_get? (map : SortedMap α) (name : String) :
    map.contains name = (map.get? name).isSome := by
  unfold contains get?
  induction map.entries with
  | nil => rfl
  | cons entry rest ih =>
    rw [List.any_cons, ih, List.lookup_cons]
    by_cases h : name = entry.1
    · rw [h, beq_self_eq_true, Bool.true_or]
      rfl
    · rw [beq_eq_false_iff_ne.mpr h, beq_eq_false_iff_ne.mpr (Ne.symm h), Bool.false_or]

/-- A text has a value if it was given one, or had one before. -/
theorem contains_insert (map : SortedMap α) (name other : String) (value : α) :
    (map.insert name value).contains other = (other == name || map.contains other) := by
  rw [contains_eq_isSome_get?, contains_eq_isSome_get?, get?_insert]
  by_cases h : other = name
  · rw [if_pos h, h, beq_self_eq_true, Bool.true_or]
    rfl
  · rw [if_neg h, beq_eq_false_iff_ne.mpr h, Bool.false_or]

end SortedMap

/-- The names in ascending order of their characters. -/
def sortedNames (names : List String) : List String :=
  names.mergeSort fun left right => !(right < left)

end BrightScript
