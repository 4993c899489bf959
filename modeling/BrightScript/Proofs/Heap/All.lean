import BrightScript.Proofs.Heap.Slots
import BrightScript.Method.Node

namespace BrightScript

namespace Heap

def All (p : Component → Prop) (heap : Heap) : Prop :=
  ∀ slot ∈ heap.slots, ∀ component, slot.state = .occupied component → p component

variable {p : Component → Prop} {heap : Heap}

theorem all_iff : heap.All p ↔
    ∀ handle component, heap.get? handle = some component → p component := by
  constructor
  · intro hall handle component hget
    obtain ⟨slot, hslot, hstate⟩ := get?_eq_some_iff.mp hget
    obtain ⟨-, hat, -, -⟩ := slot?_eq_some_iff.mp hslot
    exact hall slot (Array.mem_of_getElem? hat) component hstate
  · intro hall slot hslot component hstate
    obtain ⟨index, hindex⟩ := Array.getElem?_of_mem hslot
    refine hall ⟨heap.run, index, slot.generation⟩ component (get?_eq_some_iff.mpr ?_)
    refine ⟨slot, slot?_eq_some_iff.mpr ⟨rfl, hindex, rfl, ?_⟩, hstate⟩
    rw [Slot.isFree_eq_false_iff, hstate]
    exact nofun

theorem All.write (hall : heap.All p) {index : Nat} {slot : Slot}
    (hslot : ∀ component, slot.state = .occupied component → p component) :
    ∀ other ∈ heap.slots.setIfInBounds index slot, ∀ component,
      other.state = .occupied component → p component := by
  intro other hother
  rcases Array.mem_or_eq_of_mem_setIfInBounds hother with hother | rfl
  · exact hall other hother
  · exact hslot

theorem All.alloc (hall : heap.All p) {component : Component} (hcomponent : p component) :
    (heap.alloc component).2.All p := by
  unfold Heap.alloc
  split
  · refine hall.write fun other hstate => ?_
    rwa [← SlotState.occupied.inj hstate]
  · intro slot hslot other hstate
    rcases Array.mem_push.mp hslot with hslot | rfl
    · exact hall slot hslot other hstate
    · rwa [← SlotState.occupied.inj hstate]

theorem All.setState (hall : heap.All p) (handle : Handle) {state : SlotState}
    (hstate : ∀ component, state = .occupied component → p component) :
    (heap.setState handle state).All p := by
  unfold Heap.setState
  split
  · exact hall.write hstate
  · exact hall

theorem All.lend (hall : heap.All p) (handle : Handle) : (heap.lend handle).All p :=
  hall.setState handle nofun

theorem All.set (hall : heap.All p) (handle : Handle) {component : Component}
    (hcomponent : p component) : (heap.set handle component).All p := by
  unfold Heap.set
  split
  · exact hall.setState handle fun other hstate => SlotState.occupied.inj hstate ▸ hcomponent
  · exact hall

theorem All.restore (hall : heap.All p) (handle : Handle) {component : Component}
    (hcomponent : p component) : (heap.restore handle component).All p := by
  unfold Heap.restore
  split
  · exact hall.setState handle fun other hstate => SlotState.occupied.inj hstate ▸ hcomponent
  · exact hall

theorem All.modifyNode (hall : heap.All p) (handle : Handle) {change : Node → Node}
    (hchange : ∀ node, p (.node node) → p (.node (change node))) :
    (heap.modifyNode handle change).All p := by
  unfold Heap.modifyNode
  split
  · next node hget => exact hall.set handle (hchange node (all_iff.mp hall handle _ hget))
  · exact hall

theorem All.markAt (hall : heap.All p) {handle : Handle} {slot : Slot}
    (hslot : heap.slot? handle = some slot) : (heap.markAt handle.index slot).All p :=
  hall.write (hall slot (Array.mem_of_getElem? (getElem?_of_slot? hslot)))

theorem All.mark (hall : heap.All p) (pending : List Handle) : (heap.mark pending).All p := by
  fun_induction Heap.mark heap pending with
  | case1 => exact hall
  | case2 _ _ _ _ ih => exact ih hall
  | case3 heap handle pending slot hslot hfresh _ ih => exact ih (hall.markAt hslot)
  | case4 _ _ _ _ _ _ ih => exact ih hall

theorem All.sweep (hall : heap.All p) : heap.sweep.All p := by
  intro slot hslot component hstate
  obtain ⟨before, hbefore, rfl⟩ := Array.mem_map.mp hslot
  refine hall before hbefore component ?_
  unfold Slot.swept at hstate
  split at hstate
  · cases hstate
  · exact hstate

theorem All.collect (hall : heap.All p) (roots : List Handle) : (heap.collect roots).All p :=
  (hall.mark roots).sweep

end Heap

end BrightScript
