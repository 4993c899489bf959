import BrightScript.Heap.Basic

/-!
Freeing the components that cannot be reached. Marking follows the references of components from
the roots; sweeping frees what is not marked and clears the marks.
-/

namespace BrightScript

namespace Slot

/-- The handles that the component in a slot holds. -/
def references (slot : Slot) : List Handle :=
  match slot.component? with
  | some component => component.references
  | none => []

/-- Whether a sweep frees the slot. Borrowed components are in use. -/
def isGarbage (slot : Slot) : Bool := !slot.marked && slot.component?.isSome

def swept (slot : Slot) : Slot :=
  if slot.isGarbage then { generation := slot.generation + 1 } else { slot with marked := false }

end Slot

namespace Heap

/-- How many slots are not marked. -/
def unmarked (heap : Heap) : Nat := heap.slots.countP fun slot => !slot.marked

/-- The heap with the slot at an index marked. -/
def markAt (heap : Heap) (index : Nat) (slot : Slot) : Heap :=
  { heap with slots := heap.slots.setIfInBounds index { slot with marked := true } }

theorem getElem?_of_slot? {heap : Heap} {handle : Handle} {slot : Slot}
    (found : heap.slot? handle = some slot) : heap.slots[handle.index]? = some slot := by
  unfold slot? at found
  split at found
  · exact (Option.filter_eq_some_iff.mp found).1
  · simp at found

theorem unmarked_markAt_lt {heap : Heap} {handle : Handle} {slot : Slot}
    (found : heap.slot? handle = some slot) (fresh : slot.marked = false) :
    (heap.markAt handle.index slot).unmarked < heap.unmarked := by
  obtain ⟨bound, atIndex⟩ := Array.getElem?_eq_some_iff.mp (getElem?_of_slot? found)
  have present : 0 < heap.slots.countP fun slot => !slot.marked :=
    Array.countP_pos_iff.mpr ⟨slot, atIndex ▸ Array.getElem_mem bound, by simp [fresh]⟩
  simp only [unmarked, markAt, Array.setIfInBounds, bound, dif_pos, Array.countP_set, atIndex,
    fresh, Bool.not_false, Bool.not_true, Bool.false_eq_true, if_true, if_false]
  omega

/-- Marks everything that can be reached from the pending handles. -/
def mark (heap : Heap) : List Handle → Heap
  | [] => heap
  | handle :: pending =>
    match found : heap.slot? handle with
    | none => heap.mark pending
    | some slot =>
      if fresh : slot.marked = false then
        have := unmarked_markAt_lt found fresh
        (heap.markAt handle.index slot).mark (slot.references ++ pending)
      else heap.mark pending
-- every slot is marked at most once
termination_by pending => (heap.unmarked, pending.length)

/-- The indices of the slots that a sweep frees, in ascending order. -/
def garbage (heap : Heap) : List Nat :=
  (List.range heap.slots.size).filter fun index =>
    (heap.slots[index]?.map Slot.isGarbage).getD false

/-- Frees every component that is not marked, and clears the marks. -/
def sweep (heap : Heap) : Heap :=
  let garbage := heap.garbage
  { heap with
    slots := heap.slots.map Slot.swept
    -- the last slot that was freed is the first to be used again
    freeList := garbage.reverse ++ heap.freeList
    live := heap.live - garbage.length
    allocated := 0 }

/-- Frees every component that cannot be reached from the roots. -/
def collect (heap : Heap) (roots : List Handle) : Heap := (heap.mark roots).sweep

/-- How many components are freed by a collection. -/
def freed (heap : Heap) (roots : List Handle) : Nat := (heap.mark roots).garbage.length

/-- Whether at least `threshold` components were made since the last collection. -/
def isDue (heap : Heap) (threshold : Nat) : Bool := heap.allocated ≥ threshold

end Heap

end BrightScript
