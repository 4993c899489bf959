import Mathlib
import BrightScript.Dictionary

namespace BrightScript.Dictionary

variable {key : String → String} {α : Type}

/-- Whether two spellings are the same name. -/
def sameKey (key : String → String) (left right : String) : Bool := key left == key right

/-- The names in order of their first occurrence, spelled as they were there. -/
def firstNames (key : String → String) (names : List String) : List String :=
  names.eraseDupsBy (sameKey key)

theorem firstNames_cons (name : String) (names : List String) :
    firstNames key (name :: names) =
      name :: firstNames key (names.filter fun other => !sameKey key other name) := by
  unfold firstNames
  rw [List.eraseDupsBy_cons]
  simp only [Bool.decide_eq_false]

theorem map_fst_put (name : String) (value : α) (entries : List (String × α)) :
    (put key name value entries).map Prod.fst =
      if entries.any fun entry => key entry.1 == key name then entries.map Prod.fst
      else entries.map Prod.fst ++ [name] := by
  induction entries with
  | nil => rfl
  | cons entry rest ih =>
      unfold put
      by_cases hsame : key entry.1 = key name
      · simp [hsame]
      · rw [if_neg hsame, List.map_cons, ih, List.any_cons, beq_eq_false_iff_ne.mpr hsame,
          Bool.false_or]
        split <;> rfl

theorem names_insert (map : Dictionary key α) (name : String) (value : α) :
    (map.insert name value).names = if map.contains name then map.names else map.names ++ [name] :=
  map_fst_put name value map.entries

theorem contains_insert (map : Dictionary key α) (name other : String) (value : α) :
    (map.insert name value).contains other = (sameKey key other name || map.contains other) := by
  rw [contains_eq_isSome_get?, contains_eq_isSome_get?, get?_insert, sameKey]
  by_cases hsame : key other = key name
  · simp [hsame]
  · simp [hsame]

theorem insertMany_append (map : Dictionary key α) (entries others : List (String × α)) :
    map.insertMany (entries ++ others) = (map.insertMany entries).insertMany others :=
  List.foldl_append

theorem names_insertMany (map : Dictionary key α) (entries : List (String × α)) :
    (map.insertMany entries).names = map.names ++
      firstNames key ((entries.map Prod.fst).filter fun name => !map.contains name) := by
  induction entries generalizing map with
  | nil => simp [insertMany, firstNames]
  | cons entry rest ih =>
      change ((map.insert entry.1 entry.2).insertMany rest).names = _
      rw [ih, names_insert, List.map_cons, List.filter_cons]
      simp only [contains_insert, Bool.not_or]
      cases hcontains : map.contains entry.1 with
      | true =>
          -- a name that the map has already is not new under any spelling
          have hknown : ∀ name, map.contains name = false → sameKey key name entry.1 = false := by
            intro name hname
            rw [contains_eq_isSome_get?] at hname hcontains
            by_contra hsame
            have hkey : key name = key entry.1 := by simpa [sameKey] using hsame
            rw [get?, hkey, ← get?, hcontains] at hname
            cases hname
          have hfilter : ((rest.map Prod.fst).filter fun name =>
              !sameKey key name entry.1 && !map.contains name) =
                (rest.map Prod.fst).filter fun name => !map.contains name := by
            refine List.filter_congr fun name _ => ?_
            cases hname : map.contains name with
            | true => rw [Bool.not_true, Bool.and_false]
            | false => rw [hknown name hname]; rfl
          simp only [hfilter, if_true, Bool.not_true, Bool.false_eq_true, if_false]
      | false =>
          simp only [Bool.false_eq_true, if_false, Bool.not_false, if_true, firstNames_cons,
            List.filter_filter, List.append_assoc, List.singleton_append]

theorem names_ofList (entries : List (String × α)) :
    (ofList entries : Dictionary key α).names = firstNames key (entries.map Prod.fst) := by
  have hall : ((entries.map Prod.fst).filter fun name =>
      !(empty : Dictionary key α).contains name) = entries.map Prod.fst := by
    rw [List.filter_eq_self]
    exact fun _ _ => rfl
  rw [ofList, names_insertMany, hall]
  rfl

theorem get?_ofList (entries : List (String × α)) (name : String) :
    (ofList entries : Dictionary key α).get? name =
      (entries.reverse.find? fun entry => sameKey key entry.1 name).map Prod.snd := by
  induction entries using List.reverseRecOn with
  | nil => rfl
  | append_singleton front entry ih =>
      rw [ofList, insertMany_append, List.reverse_concat, List.find?_cons]
      change ((ofList front : Dictionary key α).insert entry.1 entry.2).get? name = _
      rw [get?_insert, ih, sameKey]
      by_cases hsame : key name = key entry.1
      · rw [if_pos hsame, hsame, beq_self_eq_true]
        rfl
      · rw [if_neg hsame, beq_eq_false_iff_ne.mpr (Ne.symm hsame)]

theorem pairwise_insert {map : Dictionary key α}
    (hmap : map.names.Pairwise fun left right => key left ≠ key right) (name : String) (value : α) :
    (map.insert name value).names.Pairwise fun left right => key left ≠ key right := by
  rw [names_insert]
  split
  · exact hmap
  · next hfresh =>
      refine List.pairwise_append.mpr ⟨hmap, List.pairwise_singleton _ _, ?_⟩
      rintro other hother _ hname hsame
      rw [List.mem_singleton.mp hname] at hsame
      obtain ⟨entry, hentry, rfl⟩ := List.mem_map.mp hother
      exact hfresh (List.any_eq_true.mpr ⟨entry, hentry, beq_iff_eq.mpr hsame⟩)

theorem pairwise_names_ofList (entries : List (String × α)) :
    (ofList entries : Dictionary key α).names.Pairwise fun left right => key left ≠ key right := by
  induction entries using List.reverseRecOn with
  | nil => exact .nil
  | append_singleton front entry ih =>
      rw [ofList, insertMany_append]
      exact pairwise_insert ih entry.1 entry.2

theorem put_of_fresh {name : String} {entries : List (String × α)}
    (hfresh : ∀ entry ∈ entries, key entry.1 ≠ key name) (value : α) :
    put key name value entries = entries ++ [(name, value)] := by
  induction entries with
  | nil => rfl
  | cons entry rest ih =>
      obtain ⟨hentry, hrest⟩ := List.forall_mem_cons.mp hfresh
      rw [put, if_neg hentry, ih hrest]
      rfl

theorem ofList_of_pairwise {entries : List (String × α)}
    (hentries : (entries.map Prod.fst).Pairwise fun left right => key left ≠ key right) :
    (ofList entries : Dictionary key α) = ⟨entries⟩ := by
  induction entries using List.reverseRecOn with
  | nil => rfl
  | append_singleton front entry ih =>
      rw [List.map_append, List.pairwise_append] at hentries
      obtain ⟨hfront, -, hlast⟩ := hentries
      have hfresh : ∀ other ∈ front, key other.1 ≠ key entry.1 := fun other hother =>
        hlast other.1 (List.mem_map_of_mem hother) entry.1 (List.mem_singleton_self _)
      rw [ofList, insertMany_append, ← ofList, ih hfront]
      exact congrArg Dictionary.mk (put_of_fresh hfresh entry.2)

theorem exists_mem_of_get? {map : Dictionary key α} {name : String} {value : α}
    (hvalue : map.get? name = some value) :
    ∃ spelling, key spelling = key name ∧ (spelling, value) ∈ map.entries := by
  obtain ⟨entry, hentry, rfl⟩ := Option.map_eq_some_iff.mp hvalue
  have hsame := List.find?_some hentry
  exact ⟨entry.1, beq_iff_eq.mp hsame, List.mem_of_find?_eq_some hentry⟩

theorem get?_of_mem {map : Dictionary key α}
    (hmap : map.names.Pairwise fun left right => key left ≠ key right) {entry : String × α}
    (hentry : entry ∈ map.entries) : map.get? entry.1 = some entry.2 := by
  have hfind : (map.entries.find? fun other => key other.1 == key entry.1) = some entry := by
    obtain ⟨front, rest, hsplit⟩ := List.append_of_mem hentry
    rw [names, hsplit, List.map_append, List.map_cons, List.pairwise_append] at hmap
    rw [hsplit, List.find?_append, List.find?_eq_none.mpr, List.find?_cons, beq_self_eq_true]
    · rfl
    · intro other hother hsame
      exact hmap.2.2 other.1 (List.mem_map_of_mem hother) entry.1 List.mem_cons_self
        (beq_iff_eq.mp hsame)
  rw [get?, hfind]
  rfl

theorem forall_mem_put {p : String × α → Prop} {name : String} {value : α}
    {entries : List (String × α)} (hentries : ∀ entry ∈ entries, p entry) (hnew : p (name, value))
    (hold : ∀ spelling other, p (spelling, other) → p (spelling, value)) :
    ∀ entry ∈ put key name value entries, p entry := by
  induction entries with
  | nil => exact List.forall_mem_singleton.mpr hnew
  | cons first rest ih =>
      obtain ⟨hfirst, hrest⟩ := List.forall_mem_cons.mp hentries
      unfold put
      split
      · exact List.forall_mem_cons.mpr ⟨hold _ _ hfirst, hrest⟩
      · exact List.forall_mem_cons.mpr ⟨hfirst, ih hrest⟩

theorem mem_values_of_get? {map : Dictionary key α} {name : String} {value : α}
    (hget : map.get? name = some value) : value ∈ map.values := by
  obtain ⟨entry, hentry, rfl⟩ := Option.map_eq_some_iff.mp hget
  exact List.mem_map_of_mem (List.mem_of_find?_eq_some hentry)

theorem mem_values_insert {map : Dictionary key α} {name : String} {value other : α}
    (hother : other ∈ (map.insert name value).values) : other = value ∨ other ∈ map.values := by
  obtain ⟨entries⟩ := map
  unfold insert values at hother
  unfold values
  induction entries with
  | nil => simpa [put] using hother
  | cons entry rest ih =>
      obtain ⟨spelling, old⟩ := entry
      simp only [put] at hother ih ⊢
      split at hother
      · simp only [List.map_cons, List.mem_cons] at hother ⊢
        tauto
      · simp only [List.map_cons, List.mem_cons] at hother ⊢
        rcases hother with hother | hother
        · exact .inr (.inl hother)
        · rcases ih hother with h | h
          · exact .inl h
          · exact .inr (.inr h)

theorem mem_values_insertMany {map : Dictionary key α} {entries : List (String × α)} {value : α}
    (hvalue : value ∈ (map.insertMany entries).values) :
    value ∈ map.values ∨ value ∈ entries.map Prod.snd := by
  unfold insertMany at hvalue
  induction entries generalizing map with
  | nil => exact .inl hvalue
  | cons entry entries ih =>
      rw [List.foldl_cons] at hvalue
      rcases ih hvalue with h | h
      · rcases mem_values_insert h with rfl | h
        · exact .inr List.mem_cons_self
        · exact .inl h
      · exact .inr (List.mem_cons_of_mem _ h)

theorem mem_values_ofList {entries : List (String × α)} {value : α}
    (hvalue : value ∈ (ofList entries : Dictionary key α).values) :
    value ∈ entries.map Prod.snd :=
  (mem_values_insertMany hvalue).resolve_left (by simp [values, empty])

theorem mem_values_erase {map : Dictionary key α} {name : String} {value : α}
    (hvalue : value ∈ (map.erase name).values) : value ∈ map.values := by
  obtain ⟨entry, hentry, rfl⟩ := List.mem_map.mp hvalue
  exact List.mem_map_of_mem (List.mem_filter.mp hentry).1

end BrightScript.Dictionary
