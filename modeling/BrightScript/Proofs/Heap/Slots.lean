import Mathlib
import BrightScript.Heap.Collect

namespace BrightScript

namespace Slot

theorem component?_eq_some_iff {slot : Slot} {component : Component} :
    slot.component? = some component ↔ slot.state = .occupied component := by
  unfold component?
  split <;> simp_all

theorem isFree_eq_false_iff {slot : Slot} : slot.isFree = false ↔ slot.state ≠ .free := by
  unfold isFree
  split <;> simp_all

@[simp] theorem component?_marked (slot : Slot) (marked : Bool) :
    { slot with marked := marked }.component? = slot.component? := rfl

@[simp] theorem isFree_marked (slot : Slot) (marked : Bool) :
    { slot with marked := marked }.isFree = slot.isFree := rfl

end Slot

namespace Heap

theorem slot?_eq_some_iff {heap : Heap} {handle : Handle} {slot : Slot} :
    heap.slot? handle = some slot ↔
      handle.run = heap.run ∧ heap.slots[handle.index]? = some slot ∧
        slot.generation = handle.generation ∧ slot.isFree = false := by
  unfold slot?
  split
  · rename_i hrun
    rw [Option.filter_eq_some_iff]
    simp [hrun]
  · rename_i hrun
    simp [hrun]

theorem get?_eq_some_iff {heap : Heap} {handle : Handle} {component : Component} :
    heap.get? handle = some component ↔
      ∃ slot, heap.slot? handle = some slot ∧ slot.state = .occupied component := by
  rw [get?, Option.bind_eq_some_iff]
  simp only [Slot.component?_eq_some_iff]

theorem isValid_iff {heap : Heap} {handle : Handle} :
    heap.isValid handle = true ↔ ∃ slot, heap.slot? handle = some slot := by
  rw [isValid, Option.isSome_iff_exists]

theorem isValid_of_get? {heap : Heap} {handle : Handle} {component : Component}
    (hget : heap.get? handle = some component) : heap.isValid handle = true := by
  obtain ⟨slot, hslot, -⟩ := get?_eq_some_iff.mp hget
  exact isValid_iff.mpr ⟨slot, hslot⟩

theorem get?_eq_none_of_not_isValid {heap : Heap} {handle : Handle}
    (hinvalid : heap.isValid handle = false) : heap.get? handle = none := by
  cases hget : heap.get? handle with
  | none => rfl
  | some component => simp [isValid_of_get? hget] at hinvalid

@[simp] theorem slot?_atTime (heap : Heap) (time : Nat) (handle : Handle) :
    (heap.atTime time).slot? handle = heap.slot? handle := rfl

@[simp] theorem get?_atTime (heap : Heap) (time : Nat) (handle : Handle) :
    (heap.atTime time).get? handle = heap.get? handle := rfl

@[simp] theorem isValid_atTime (heap : Heap) (time : Nat) (handle : Handle) :
    (heap.atTime time).isValid handle = heap.isValid handle := rfl

theorem slot?_write {heap : Heap} {index : Nat} {slot : Slot} (hindex : index < heap.slots.size)
    (handle : Handle) :
    { heap with slots := heap.slots.setIfInBounds index slot }.slot? handle =
      if handle.run = heap.run ∧ handle.index = index then
        if slot.generation = handle.generation ∧ slot.isFree = false then some slot else none
      else heap.slot? handle := by
  unfold slot?
  by_cases hrun : handle.run = heap.run
  · by_cases hsame : handle.index = index
    · subst hsame
      simp only [hrun, if_true, true_and, Array.getElem?_setIfInBounds, hindex,
        Option.filter_some]
      by_cases hgen : slot.generation = handle.generation <;> simp [hgen]
    · have hother : ¬ index = handle.index := fun h => hsame h.symm
      simp [hrun, hsame, hother]
  · simp [hrun]

theorem slot?_setState {heap : Heap} {state : SlotState} (hstate : state ≠ .free)
    (handle other : Handle) :
    (heap.setState handle state).slot? other =
      if handle = other then (heap.slot? handle).map ({ · with state := state })
      else heap.slot? other := by
  unfold setState
  split
  · rename_i slot hslot
    obtain ⟨hrun, hindex, hgen, -⟩ := slot?_eq_some_iff.mp hslot
    have hbound : handle.index < heap.slots.size := (Array.getElem?_eq_some_iff.mp hindex).1
    have hoccupied : { slot with state := state }.isFree = false :=
      Slot.isFree_eq_false_iff.mpr hstate
    rw [slot?_write hbound]
    by_cases hsame : handle = other
    · subst hsame
      rw [if_pos ⟨hrun, rfl⟩, if_pos ⟨hgen, hoccupied⟩, if_pos rfl, hslot, Option.map_some]
    · rw [if_neg hsame]
      split
      · rename_i hplace
        have hdiffer : slot.generation ≠ other.generation := by
          intro h
          apply hsame
          cases handle
          cases other
          simp_all
        rw [if_neg (fun h => hdiffer h.1)]
        symm
        rw [Option.eq_none_iff_forall_ne_some]
        intro found hfound
        obtain ⟨-, hat, hother, -⟩ := slot?_eq_some_iff.mp hfound
        rw [hplace.2, hindex] at hat
        cases hat
        exact hdiffer hother
      · rfl
  · rename_i hslot
    by_cases hsame : handle = other
    · subst hsame
      simp [hslot]
    · rw [if_neg hsame]

@[simp] theorem clock_setState (heap : Heap) (handle : Handle) (state : SlotState) :
    (heap.setState handle state).clock = heap.clock := by
  unfold setState
  split <;> rfl

theorem isValid_setState {heap : Heap} {state : SlotState} (hstate : state ≠ .free)
    (handle other : Handle) :
    (heap.setState handle state).isValid other = heap.isValid other := by
  unfold isValid
  rw [slot?_setState hstate]
  split
  · rename_i hsame
    subst hsame
    simp
  · rfl

theorem get?_setState_occupied (heap : Heap) (handle other : Handle) (component : Component) :
    (heap.setState handle (.occupied component)).get? other =
      if handle = other then
        if heap.isValid handle then some component else none
      else heap.get? other := by
  unfold get?
  rw [slot?_setState (by simp)]
  split
  · cases hslot : heap.slot? handle with
    | none => simp [isValid, hslot]
    | some slot => simp [isValid, hslot, Slot.component?]
  · rfl

theorem get?_set (heap : Heap) (handle other : Handle) (component : Component) :
    (heap.set handle component).get? other =
      if handle = other then (heap.get? handle).map fun _ => component else heap.get? other := by
  unfold set
  split
  · rename_i old hget
    rw [get?_setState_occupied, isValid_of_get? hget]
    simp [hget]
  · rename_i hget
    split
    · rename_i hsame
      subst hsame
      simp [hget]
    · rfl

@[simp] theorem isValid_set (heap : Heap) (handle other : Handle) (component : Component) :
    (heap.set handle component).isValid other = heap.isValid other := by
  unfold set
  split
  · exact isValid_setState (by simp) handle other
  · rfl

@[simp] theorem clock_set (heap : Heap) (handle : Handle) (component : Component) :
    (heap.set handle component).clock = heap.clock := by
  unfold set
  split <;> simp

theorem get?_lend (heap : Heap) (handle other : Handle) :
    (heap.lend handle).get? other = if handle = other then none else heap.get? other := by
  unfold lend get?
  rw [slot?_setState (by simp)]
  split
  · cases heap.slot? handle <;> simp [Slot.component?]
  · rfl

@[simp] theorem get?_lend_self (heap : Heap) (handle : Handle) :
    (heap.lend handle).get? handle = none := by
  rw [get?_lend, if_pos rfl]

theorem get?_of_get?_lend {heap : Heap} {handle other : Handle} {component : Component}
    (hget : (heap.lend handle).get? other = some component) :
    handle ≠ other ∧ heap.get? other = some component := by
  rw [get?_lend] at hget
  split at hget
  · simp at hget
  · rename_i hdiffer
    exact ⟨hdiffer, hget⟩

@[simp] theorem isValid_lend (heap : Heap) (handle other : Handle) :
    (heap.lend handle).isValid other = heap.isValid other :=
  isValid_setState (by simp) handle other

@[simp] theorem clock_lend (heap : Heap) (handle : Handle) :
    (heap.lend handle).clock = heap.clock := by
  simp [lend]

theorem state_eq_borrowed {heap : Heap} {handle : Handle} (hvalid : heap.isValid handle = true)
    (hget : heap.get? handle = none) :
    (heap.slot? handle).map Slot.state = some .borrowed := by
  obtain ⟨slot, hslot⟩ := isValid_iff.mp hvalid
  obtain ⟨-, -, -, hfree⟩ := slot?_eq_some_iff.mp hslot
  rw [Slot.isFree_eq_false_iff] at hfree
  cases hstate : slot.state with
  | free => exact absurd hstate hfree
  | occupied component =>
      have hsome : heap.get? handle = some component :=
        get?_eq_some_iff.mpr ⟨slot, hslot, hstate⟩
      rw [hget] at hsome
      cases hsome
  | borrowed => rw [hslot, Option.map_some, hstate]

theorem restore_eq_setState {heap : Heap} {handle : Handle} (hvalid : heap.isValid handle = true)
    (hget : heap.get? handle = none) (component : Component) :
    heap.restore handle component = heap.setState handle (.occupied component) := by
  unfold restore
  rw [state_eq_borrowed hvalid hget]

/-- Putting a component back affects only the handle that it was taken from. -/
theorem get?_restore {heap : Heap} {handle : Handle} (hvalid : heap.isValid handle = true)
    (hget : heap.get? handle = none) (component : Component) (other : Handle) :
    (heap.restore handle component).get? other =
      if handle = other then some component else heap.get? other := by
  rw [restore_eq_setState hvalid hget, get?_setState_occupied, hvalid]
  simp

@[simp] theorem isValid_restore (heap : Heap) (handle other : Handle) (component : Component) :
    (heap.restore handle component).isValid other = heap.isValid other := by
  unfold restore
  split
  · exact isValid_setState (by simp) handle other
  · rfl

@[simp] theorem clock_restore (heap : Heap) (handle : Handle) (component : Component) :
    (heap.restore handle component).clock = heap.clock := by
  unfold restore
  split <;> simp

theorem slot?_free (heap : Heap) (handle other : Handle) :
    (heap.free handle).slot? other = if handle = other then none else heap.slot? other := by
  unfold free
  split
  · rename_i slot hslot
    obtain ⟨hrun, hindex, hgen, -⟩ := slot?_eq_some_iff.mp hslot
    have hbound : handle.index < heap.slots.size := (Array.getElem?_eq_some_iff.mp hindex).1
    let released : Slot := { generation := slot.generation + 1 }
    change { heap with slots := heap.slots.setIfInBounds handle.index released }.slot? other = _
    rw [slot?_write hbound]
    split
    · rename_i hplace
      have hreleased : ¬ released.isFree = false := by simp [released, Slot.isFree]
      rw [if_neg (fun h => hreleased h.2)]
      split
      · rfl
      · rename_i hsame
        symm
        rw [Option.eq_none_iff_forall_ne_some]
        intro found hfound
        obtain ⟨-, hat, hother, -⟩ := slot?_eq_some_iff.mp hfound
        rw [hplace.2, hindex] at hat
        cases hat
        apply hsame
        cases handle
        cases other
        simp_all
    · rename_i hplace
      rw [if_neg]
      rintro rfl
      exact hplace ⟨hrun, rfl⟩
  · rename_i hslot
    split
    · rename_i hsame
      rw [← hsame, hslot]
    · rfl

end Heap

end BrightScript
