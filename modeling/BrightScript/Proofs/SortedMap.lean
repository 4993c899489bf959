import Mathlib
import BrightScript.SortedMap

namespace BrightScript.SortedMap

variable {α : Type}

theorem mem_put {name : String} {value : α} {entries : List (String × α)} {entry : String × α}
    (hentry : entry ∈ put name value entries) : entry = (name, value) ∨ entry ∈ entries := by
  induction entries with
  | nil => exact .inl (List.mem_singleton.mp hentry)
  | cons first rest ih =>
      unfold put at hentry
      split at hentry
      · exact List.mem_cons.mp hentry
      · split at hentry
        · exact (List.mem_cons.mp hentry).imp_right (List.mem_cons_of_mem _)
        · rcases List.mem_cons.mp hentry with rfl | hrest
          · exact .inr List.mem_cons_self
          · exact (ih hrest).imp_right (List.mem_cons_of_mem _)

theorem pairwise_put {entries : List (String × α)} (hentries : entries.Pairwise (·.1 < ·.1))
    (name : String) (value : α) : (put name value entries).Pairwise (·.1 < ·.1) := by
  induction entries with
  | nil => exact List.pairwise_singleton _ _
  | cons first rest ih =>
      obtain ⟨hfirst, hrest⟩ := List.pairwise_cons.mp hentries
      unfold put
      split
      · next hbefore =>
          refine List.pairwise_cons.mpr ⟨fun entry hentry => ?_, hentries⟩
          rcases List.mem_cons.mp hentry with rfl | hentry
          · exact hbefore
          · exact String.lt_trans hbefore (hfirst entry hentry)
      · split
        · next hsame =>
            rw [hsame]
            exact List.pairwise_cons.mpr ⟨hfirst, hrest⟩
        · next hnot hne =>
            refine List.pairwise_cons.mpr ⟨fun entry hentry => ?_, ih hrest⟩
            rcases mem_put hentry with rfl | hentry
            · exact lt_of_le_of_ne (String.not_lt.mp hnot) (Ne.symm hne)
            · exact hfirst entry hentry

theorem perm_put {name : String} {entries : List (String × α)}
    (hfresh : name ∉ entries.map Prod.fst) (value : α) :
    (put name value entries).Perm ((name, value) :: entries) := by
  induction entries with
  | nil => exact .refl _
  | cons first rest ih =>
      rw [List.map_cons, List.mem_cons, not_or] at hfresh
      unfold put
      rw [if_neg hfresh.1]
      split
      · exact .refl _
      · exact ((ih hfresh.2).cons first).trans (.swap _ _ rest)

theorem lookup_of_mem {entries : List (String × α)} (hentries : entries.Pairwise (·.1 < ·.1))
    {name : String} {value : α} (hentry : (name, value) ∈ entries) :
    entries.lookup name = some value := by
  induction entries with
  | nil => exact absurd hentry List.not_mem_nil
  | cons first rest ih =>
      obtain ⟨hfirst, hrest⟩ := List.pairwise_cons.mp hentries
      rcases List.mem_cons.mp hentry with rfl | hentry
      · rw [List.lookup_cons, beq_self_eq_true]
      · have hne := (ne_of_lt (hfirst _ hentry)).symm
        rw [List.lookup_cons, beq_eq_false_iff_ne.mpr hne]
        exact ih hrest hentry

theorem eq_of_perm {entries others : List (String × α)} (hperm : entries.Perm others)
    (hentries : entries.Pairwise (·.1 < ·.1)) (hothers : others.Pairwise (·.1 < ·.1)) :
    entries = others := by
  refine hperm.eq_of_pairwise (fun first second _ _ hbefore hbehind => ?_) hentries hothers
  exact absurd hbehind (String.lt_asymm hbefore)

theorem perm_ofList {entries : List (String × α)}
    (hentries : (entries.map Prod.fst).Nodup) : (ofList entries).entries.Perm entries := by
  induction entries using List.reverseRecOn with
  | nil => exact .nil
  | append_singleton front entry ih =>
      rw [List.map_append, List.nodup_append] at hentries
      obtain ⟨hfront, -, hdisjoint⟩ := hentries
      have hperm := ih hfront
      have hfresh : entry.1 ∉ (ofList front).entries.map Prod.fst := by
        rw [(hperm.map Prod.fst).mem_iff]
        intro hmem
        exact hdisjoint _ hmem _ (List.mem_singleton_self _) rfl
      have hlast : (ofList (front ++ [entry])).entries =
          put entry.1 entry.2 (ofList front).entries := by
        rw [ofList, List.foldl_append]
        rfl
      rw [hlast]
      exact (perm_put hfresh entry.2).trans
        ((hperm.cons entry).trans (List.perm_append_singleton entry front).symm)

/-- The map with further entries, inserted one after the other. -/
def insertMany (map : SortedMap α) (entries : List (String × α)) : SortedMap α :=
  entries.foldl (fun map entry => map.insert entry.1 entry.2) map

theorem insertMany_append (map : SortedMap α) (entries others : List (String × α)) :
    map.insertMany (entries ++ others) = (map.insertMany entries).insertMany others :=
  List.foldl_append

theorem pairwise_insertMany {map : SortedMap α} (hmap : map.entries.Pairwise (·.1 < ·.1))
    (entries : List (String × α)) : (map.insertMany entries).entries.Pairwise (·.1 < ·.1) := by
  induction entries generalizing map with
  | nil => exact hmap
  | cons entry rest ih => exact ih (pairwise_put hmap entry.1 entry.2)

theorem pairwise_ofList (entries : List (String × α)) :
    (ofList entries).entries.Pairwise (·.1 < ·.1) := by
  have hempty : (empty : SortedMap α).entries.Pairwise (·.1 < ·.1) := .nil
  exact pairwise_insertMany hempty entries

theorem mem_of_mem_ofList {entries : List (String × α)} {entry : String × α}
    (hentry : entry ∈ (ofList entries).entries) : entry ∈ entries := by
  induction entries using List.reverseRecOn with
  | nil => exact hentry
  | append_singleton front last ih =>
      rw [ofList, List.foldl_append] at hentry
      rcases mem_put hentry with rfl | hfront
      · exact List.mem_append_right _ (List.mem_singleton_self _)
      · exact List.mem_append_left _ (ih hfront)

theorem get?_insertMany (map : SortedMap α) (entries : List (String × α)) (name : String) :
    (map.insertMany entries).get? name = ((ofList entries).get? name).or (map.get? name) := by
  induction entries using List.reverseRecOn with
  | nil => rfl
  | append_singleton front last ih =>
      rw [insertMany_append, ofList, List.foldl_append]
      change ((map.insertMany front).insert last.1 last.2).get? name =
        (((ofList front).insert last.1 last.2).get? name).or (map.get? name)
      rw [get?_insert, get?_insert, ih]
      split
      · rfl
      · rfl

theorem get?_eq_some_iff {map : SortedMap α} (hmap : map.entries.Pairwise (·.1 < ·.1))
    {name : String} {value : α} : map.get? name = some value ↔ (name, value) ∈ map.entries := by
  constructor
  · intro hvalue
    obtain ⟨front, rest, hentries, -⟩ := List.lookup_eq_some_iff.mp hvalue
    rw [hentries]
    exact List.mem_append_right _ List.mem_cons_self
  · exact lookup_of_mem hmap

/-- Maps in ascending order are the same if they have the same values. -/
theorem ext_get? {map other : SortedMap α} (hmap : map.entries.Pairwise (·.1 < ·.1))
    (hother : other.entries.Pairwise (·.1 < ·.1))
    (hvalues : ∀ name, map.get? name = other.get? name) : map = other := by
  have hnodup : ∀ {entries : List (String × α)}, entries.Pairwise (·.1 < ·.1) →
      entries.Nodup := fun hentries =>
    hentries.imp fun hless => ne_of_apply_ne Prod.fst (ne_of_lt hless)
  have hperm : map.entries.Perm other.entries := by
    refine (List.perm_ext_iff_of_nodup (hnodup hmap) (hnodup hother)).mpr fun entry => ?_
    rw [← get?_eq_some_iff hmap, ← get?_eq_some_iff hother, hvalues]
  have hentries := eq_of_perm hperm hmap hother
  cases map
  cases other
  exact congrArg SortedMap.mk hentries

theorem ofList_entries {map : SortedMap α} (hmap : map.entries.Pairwise (·.1 < ·.1)) :
    ofList map.entries = map := by
  have hnames : (map.entries.map Prod.fst).Nodup :=
    List.pairwise_map.mpr (hmap.imp fun hless => ne_of_lt hless)
  have hentries := eq_of_perm (perm_ofList hnames) (pairwise_ofList map.entries) hmap
  cases map
  exact congrArg SortedMap.mk hentries

theorem insertMany_ofList {map : SortedMap α} (hmap : map.entries.Pairwise (·.1 < ·.1))
    (entries : List (String × α)) :
    map.insertMany (ofList entries).entries = map.insertMany entries := by
  refine ext_get? (pairwise_insertMany hmap _) (pairwise_insertMany hmap _) fun name => ?_
  rw [get?_insertMany, get?_insertMany, ofList_entries (pairwise_ofList entries)]

end BrightScript.SortedMap
