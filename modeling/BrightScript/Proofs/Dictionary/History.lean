import BrightScript.Proofs.Dictionary

/-!
What a map owes to its history. A name enters a map with a write when the map does not have it, and
stays until it is removed: it stands in the order of entry, with the spelling of the write with which
it entered, and has the value that was written last.
-/

namespace BrightScript

/-- What is done to a map. -/
inductive MapEvent (α : Type) where
  | write (name : String) (value : α)
  | remove (name : String)
  | clear
  deriving DecidableEq, Repr

namespace MapEvent

variable {α : Type}

/-- Whether an event gives a name a value. -/
def Writes (key : String → String) (name : String) : MapEvent α → Prop
  | .write spelled _ => key spelled = key name
  | .remove _ | .clear => False

/-- Whether an event takes a name out of the map. -/
def Removes (key : String → String) (name : String) : MapEvent α → Prop
  | .remove spelled => key spelled = key name
  | .clear => True
  | .write _ _ => False

/-- Whether an event changes what is found under a name. -/
def Touches (key : String → String) (name : String) (event : MapEvent α) : Prop :=
  event.Writes key name ∨ event.Removes key name

/-- In a history there is an event that is as `P` says after the events before it, and no event as
`Q` says came later. -/
def Lately (P : List (MapEvent α) → MapEvent α → Prop) (Q : MapEvent α → Prop)
    (history : List (MapEvent α)) : Prop :=
  ∃ before event later, history = before ++ event :: later ∧ P before event ∧
    ∀ other ∈ later, ¬ Q other

/-- After a history a map has a name. -/
def Present (key : String → String) (name : String) : List (MapEvent α) → Prop :=
  Lately (fun _ event => event.Writes key name) (Removes key name)

/-- With the event at a place of a history a name enters, spelled as here, and it stays. -/
def Enters (key : String → String) (name : String) (place : Nat) : List (MapEvent α) → Prop :=
  Lately (fun before event => before.length = place ∧ (∃ value, event = .write name value) ∧
    ¬ Present key name before) (Removes key name)

/-- In a history a name is given a value last. -/
def LastWrite (key : String → String) (name : String) (value : α) : List (MapEvent α) → Prop :=
  Lately (fun _ event => ∃ spelled, event = .write spelled value ∧ key spelled = key name)
    (Touches key name)

section Lately

variable {P : List (MapEvent α) → MapEvent α → Prop} {Q : MapEvent α → Prop}
  {history : List (MapEvent α)} {key : String → String}

theorem not_lately_nil : ¬ Lately P Q [] := by
  rintro ⟨before, event, later, hsplit, -⟩
  exact absurd hsplit.symm (List.append_ne_nil_of_right_ne_nil _ (List.cons_ne_nil _ _))

theorem lately_concat {last : MapEvent α} :
    Lately P Q (history ++ [last]) ↔ P history last ∨ ¬ Q last ∧ Lately P Q history := by
  constructor
  · rintro ⟨before, event, later, hsplit, hevent, hlater⟩
    rcases List.eq_nil_or_concat later with rfl | ⟨later, other, rfl⟩
    · obtain ⟨rfl, hlast⟩ := List.append_inj' hsplit rfl
      obtain rfl := (List.cons.inj hlast).1
      exact .inl hevent
    · rw [List.concat_eq_append, ← List.cons_append, ← List.append_assoc] at hsplit
      obtain ⟨rfl, hlast⟩ := List.append_inj' hsplit rfl
      obtain rfl := (List.cons.inj hlast).1
      rw [List.concat_eq_append, List.forall_mem_append, List.forall_mem_singleton] at hlater
      exact .inr ⟨hlater.2, before, event, later, rfl, hevent, hlater.1⟩
  · rintro (hlast | ⟨hlast, before, event, later, rfl, hevent, hlater⟩)
    · exact ⟨history, last, [], rfl, hlast, List.forall_mem_nil _⟩
    · refine ⟨before, event, later ++ [last], by simp, hevent, ?_⟩
      rw [List.forall_mem_append, List.forall_mem_singleton]
      exact ⟨hlater, hlast⟩

end Lately

section Concat

variable {key : String → String} {history : List (MapEvent α)} {name spelled : String}
  {value last : α} {place : Nat}

theorem present_write : Present key name (history ++ [.write spelled last]) ↔
    key spelled = key name ∨ Present key name history := by
  simp [Present, lately_concat, Writes, Removes]

theorem present_remove : Present key name (history ++ [.remove spelled]) ↔
    key spelled ≠ key name ∧ Present key name history := by
  simp [Present, lately_concat, Writes, Removes]

theorem not_present_clear : ¬ Present key name (history ++ [.clear]) := by
  simp [Present, lately_concat, Writes, Removes]

theorem enters_write : Enters key name place (history ++ [.write spelled last]) ↔
    history.length = place ∧ spelled = name ∧ ¬ Present key name history ∨
      Enters key name place history := by
  simp [Enters, lately_concat, Removes]

theorem enters_remove : Enters key name place (history ++ [.remove spelled]) ↔
    key spelled ≠ key name ∧ Enters key name place history := by
  simp [Enters, lately_concat, Removes]

theorem lastWrite_write : LastWrite key name value (history ++ [.write spelled last]) ↔
    key spelled = key name ∧ last = value ∨
      key spelled ≠ key name ∧ LastWrite key name value history := by
  simp [LastWrite, lately_concat, Touches, Writes, Removes, and_comm]

theorem lastWrite_remove : LastWrite key name value (history ++ [.remove spelled]) ↔
    key spelled ≠ key name ∧ LastWrite key name value history := by
  simp [LastWrite, lately_concat, Touches, Writes, Removes]

theorem not_lastWrite_clear : ¬ LastWrite key name value (history ++ [.clear]) := by
  simp [LastWrite, lately_concat, Touches, Writes, Removes]

theorem Enters.lt_length (henters : Enters key name place history) : place < history.length := by
  obtain ⟨before, event, later, rfl, ⟨rfl, -⟩, -⟩ := henters
  simp

end Concat

end MapEvent

namespace Dictionary

variable {key : String → String} {α : Type}

def apply (map : Dictionary key α) : MapEvent α → Dictionary key α
  | .write name value => map.insert name value
  | .remove name => map.erase name
  | .clear => .empty

def applyAll (map : Dictionary key α) (events : List (MapEvent α)) : Dictionary key α :=
  events.foldl apply map

/-- The events that write entries one after the other. -/
def writes (entries : List (String × α)) : List (MapEvent α) :=
  entries.map fun entry => .write entry.1 entry.2

/-- What a map owes to its history. -/
structure Records (map : Dictionary key α) (history : List (MapEvent α)) : Prop where
  /-- No two names are the same. -/
  nodup : (map.names.map key).Nodup
  /-- The names stand in the order in which they entered, spelled as they were then. -/
  entered : ∃ places : List Nat, places.Pairwise (· < ·) ∧
    List.Forall₂ (fun place name => MapEvent.Enters key name place history) places map.names
  /-- Every name that entered and stayed is there. -/
  contains_iff : ∀ name, map.contains name = true ↔ MapEvent.Present key name history
  /-- A name has the value that it was given last, under whatever spelling. -/
  get?_iff : ∀ name value, map.get? name = some value ↔ MapEvent.LastWrite key name value history

section Erase

variable (map : Dictionary key α) (name other : String)

theorem names_erase : (map.erase name).names =
    map.names.filter fun spelling => key spelling != key name := by
  rw [names, names, List.filter_map]
  rfl

theorem get?_erase : (map.erase name).get? other =
    if key name = key other then none else map.get? other := by
  rw [get?, get?, erase, List.find?_filter]
  split
  · next hsame =>
      rw [hsame, List.find?_eq_none.mpr]
      · rfl
      · simp
  · next hdiffer =>
      have hkept : (fun entry : String × α => decide ((key entry.1 != key name) = true ∧
          (key entry.1 == key other) = true)) = fun entry => key entry.1 == key other := by
        funext entry
        by_cases hentry : key entry.1 = key other
        · simp [hentry, Ne.symm hdiffer]
        · simp [hentry]
      rw [hkept]

theorem contains_erase : (map.erase name).contains other =
    (!sameKey key name other && map.contains other) := by
  rw [contains_eq_isSome_get?, contains_eq_isSome_get?, get?_erase, sameKey]
  by_cases hsame : key name = key other <;> simp [hsame]

end Erase

theorem exists_forall₂_filter {β γ : Type} {R : β → γ → Prop} {items : List β} {others : List γ}
    (h : List.Forall₂ R items others) (keep : γ → Bool) :
    ∃ kept, kept.Sublist items ∧
      List.Forall₂ (fun item other => R item other ∧ keep other = true) kept
        (others.filter keep) := by
  induction h with
  | nil => exact ⟨[], .refl _, .nil⟩
  | @cons item other _ _ hitem _ ih =>
      obtain ⟨kept, hkept, hall⟩ := ih
      cases hkeep : keep other with
      | true =>
          rw [List.filter_cons_of_pos hkeep]
          exact ⟨item :: kept, hkept.cons_cons item, .cons ⟨hitem, hkeep⟩ hall⟩
      | false =>
          rw [List.filter_cons_of_neg (by rw [hkeep]; exact Bool.false_ne_true)]
          exact ⟨kept, hkept.cons item, hall⟩

namespace Records

variable {map : Dictionary key α} {history : List (MapEvent α)}

theorem empty : Records (empty : Dictionary key α) [] where
  nodup := .nil
  entered := ⟨[], .nil, .nil⟩
  contains_iff _ := iff_of_false Bool.false_ne_true MapEvent.not_lately_nil
  get?_iff _ _ := iff_of_false (by simp) MapEvent.not_lately_nil

theorem pairwise (h : map.Records history) :
    map.names.Pairwise fun left right => key left ≠ key right :=
  List.pairwise_map.mp h.nodup

theorem insert (h : map.Records history) (name : String) (value : α) :
    (map.insert name value).Records (history ++ [.write name value]) where
  nodup := List.pairwise_map.mpr (pairwise_insert h.pairwise name value)
  entered := by
    obtain ⟨places, hplaces, hentered⟩ := h.entered
    have hstays : List.Forall₂ (fun place other =>
        MapEvent.Enters key other place (history ++ [.write name value])) places map.names :=
      hentered.imp fun place other henters => MapEvent.enters_write.mpr (.inr henters)
    rw [names_insert]
    cases hcontains : map.contains name with
    | true => exact ⟨places, hplaces, hstays⟩
    | false =>
        have hfresh : ¬ MapEvent.Present key name history := by
          rw [← h.contains_iff, hcontains]
          exact Bool.false_ne_true
        -- the place of the new name is behind all places so far
        have hlast : ∀ place ∈ places, place < history.length :=
          ((List.forall₂_and_left (p := fun place => place < history.length) _ _).mp
            (hentered.imp fun _ _ henters => ⟨henters.lt_length, henters⟩)).1
        refine ⟨places ++ [history.length], List.pairwise_append.mpr
          ⟨hplaces, List.pairwise_singleton _ _, ?_⟩, List.rel_append hstays (.cons ?_ .nil)⟩
        · rintro place hplace _ hlength
          rw [List.mem_singleton.mp hlength]
          exact hlast place hplace
        · exact MapEvent.enters_write.mpr (.inl ⟨rfl, rfl, hfresh⟩)
  contains_iff other := by
    rw [contains_insert, Bool.or_eq_true, h.contains_iff, MapEvent.present_write, sameKey,
      beq_iff_eq, eq_comm]
  get?_iff other found := by
    rw [get?_insert, MapEvent.lastWrite_write, ← h.get?_iff]
    by_cases hsame : key other = key name
    · simp [hsame]
    · simp [hsame, Ne.symm hsame]

theorem erase (h : map.Records history) (name : String) :
    (map.erase name).Records (history ++ [.remove name]) where
  nodup := by
    rw [names_erase]
    exact h.nodup.sublist (List.filter_sublist.map key)
  entered := by
    obtain ⟨places, hplaces, hentered⟩ := h.entered
    obtain ⟨kept, hkept, hall⟩ :=
      exists_forall₂_filter hentered fun spelling => key spelling != key name
    rw [names_erase]
    refine ⟨kept, hplaces.sublist hkept, hall.imp fun place other henters => ?_⟩
    exact MapEvent.enters_remove.mpr ⟨Ne.symm (bne_iff_ne.mp henters.2), henters.1⟩
  contains_iff other := by
    rw [contains_erase, MapEvent.present_remove, ← h.contains_iff]
    simp [sameKey]
  get?_iff other value := by
    rw [get?_erase, MapEvent.lastWrite_remove, ← h.get?_iff]
    by_cases hsame : key name = key other <;> simp [hsame]

theorem clear (history : List (MapEvent α)) :
    (Dictionary.empty : Dictionary key α).Records (history ++ [.clear]) where
  nodup := .nil
  entered := ⟨[], .nil, .nil⟩
  contains_iff _ := iff_of_false Bool.false_ne_true MapEvent.not_present_clear
  get?_iff _ _ := iff_of_false (by simp) MapEvent.not_lastWrite_clear

theorem apply (h : map.Records history) (event : MapEvent α) :
    (map.apply event).Records (history ++ [event]) := by
  cases event with
  | write name value => exact h.insert name value
  | remove name => exact h.erase name
  | clear => exact .clear history

theorem applyAll (h : map.Records history) (events : List (MapEvent α)) :
    (map.applyAll events).Records (history ++ events) := by
  induction events generalizing map history with
  | nil => rwa [List.append_nil]
  | cons event rest ih =>
      rw [← List.singleton_append, ← List.append_assoc]
      exact ih (h.apply event)

end Records

/-- A map that begins empty owes all that it has to its history. -/
theorem records_applyAll (history : List (MapEvent α)) :
    (empty.applyAll history : Dictionary key α).Records history :=
  Records.empty.applyAll history

theorem applyAll_append (map : Dictionary key α) (events later : List (MapEvent α)) :
    map.applyAll (events ++ later) = (map.applyAll events).applyAll later :=
  List.foldl_append

theorem applyAll_writes (map : Dictionary key α) (entries : List (String × α)) :
    map.applyAll (writes entries) = map.insertMany entries :=
  List.foldl_map

theorem insert_of_mem {map : Dictionary key α}
    (hmap : map.names.Pairwise fun left right => key left ≠ key right) {entry : String × α}
    (hentry : entry ∈ map.entries) : map.insert entry.1 entry.2 = map := by
  obtain ⟨entries⟩ := map
  refine congrArg Dictionary.mk ?_
  change entry ∈ entries at hentry
  change (entries.map Prod.fst).Pairwise _ at hmap
  induction entries with
  | nil => exact absurd hentry List.not_mem_nil
  | cons first rest ih =>
      obtain ⟨hfirst, hrest⟩ := List.pairwise_cons.mp hmap
      rcases List.mem_cons.mp hentry with rfl | hentry
      · exact if_pos rfl
      · rw [put, if_neg (hfirst entry.1 (List.mem_map_of_mem hentry)), ih hentry hrest]

theorem insertMany_of_mem {map : Dictionary key α}
    (hmap : map.names.Pairwise fun left right => key left ≠ key right)
    {entries : List (String × α)} (hentries : ∀ entry ∈ entries, entry ∈ map.entries) :
    map.insertMany entries = map := by
  induction entries with
  | nil => rfl
  | cons first rest ih =>
      obtain ⟨hfirst, hrest⟩ := List.forall_mem_cons.mp hentries
      change (map.insert first.1 first.2).insertMany rest = map
      rw [insert_of_mem hmap hfirst, ih hrest]

end Dictionary

end BrightScript
