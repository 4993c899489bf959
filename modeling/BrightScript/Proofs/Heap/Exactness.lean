import BrightScript.Proofs.Heap.Collection

namespace BrightScript.Heap

variable {heap : Heap}

theorem WellFormed.alloc_cases (hheap : heap.WellFormed) (component : Component) :
    (∃ slot rest, heap.freeList = (heap.alloc component).1.index :: rest ∧
      heap.slots[(heap.alloc component).1.index]? = some slot ∧ slot.isFree = true) ∨
    (heap.freeList = [] ∧ (heap.alloc component).1.index = heap.slots.size) := by
  unfold Heap.alloc
  split
  · next index rest hlist =>
      obtain ⟨slot, hslot, hfree⟩ := hheap.head_freeList hlist
      exact .inl ⟨slot, rest, hlist, hslot, hfree⟩
  · next hlist => exact .inr ⟨hlist, rfl⟩

theorem WellFormed.slots_alloc (hheap : heap.WellFormed) (component : Component) {index : Nat}
    {slot : Slot} (hslot : heap.slots[index]? = some slot) (hused : slot.isFree = false) :
    (heap.alloc component).2.slots[index]? = some slot := by
  obtain ⟨hindex, -⟩ := Array.getElem?_eq_some_iff.mp hslot
  unfold Heap.alloc
  split
  · next place rest hlist =>
      obtain ⟨old, hold, hfree⟩ := hheap.head_freeList hlist
      have hother : place ≠ index := by
        rintro rfl
        rw [hold] at hslot
        obtain rfl := Option.some.inj hslot
        rw [hfree] at hused
        cases hused
      change (heap.slots.setIfInBounds place _)[index]? = some slot
      rw [Array.getElem?_setIfInBounds_ne hother, hslot]
  · change (heap.slots.push _)[index]? = some slot
    rw [Array.getElem?_push, if_neg (Nat.ne_of_lt hindex), hslot]

theorem live_alloc (heap : Heap) (component : Component) :
    (heap.alloc component).2.live = heap.live + 1 := by
  unfold Heap.alloc
  split <;> rfl

theorem WellFormed.live_pos (hheap : heap.WellFormed) {handle : Handle}
    (hvalid : heap.isValid handle = true) : 0 < heap.live := by
  obtain ⟨slot, hslot⟩ := isValid_iff.mp hvalid
  obtain ⟨-, hindex, -, hused⟩ := slot?_eq_some_iff.mp hslot
  obtain ⟨hbound, rfl⟩ := Array.getElem?_eq_some_iff.mp hindex
  rw [hheap.live_eq, Array.countP_pos_iff]
  exact ⟨_, Array.getElem_mem hbound, by rw [hused, Bool.not_false]⟩

theorem live_free {handle : Handle} (hvalid : heap.isValid handle = true) :
    (heap.free handle).live = heap.live - 1 := by
  obtain ⟨slot, hslot⟩ := isValid_iff.mp hvalid
  unfold free
  rw [hslot]

/-- The books of a heap say what is there, and nothing that is done relies on more. -/
structure Exact (heap : Heap) : Prop where
  /-- The components are counted. -/
  live_eq : heap.live = heap.slots.countP (!·.isFree)
  nodup : heap.freeList.Nodup
  /-- The free list names exactly the free slots. -/
  mem_freeList : ∀ index : Nat, index ∈ heap.freeList ↔
    ∃ slot : Slot, heap.slots[index]? = some slot ∧ slot.isFree = true
  unmarked : ∀ slot ∈ heap.slots, slot.marked = false
  /-- What is taken from the free list is the index of a free slot. -/
  alloc_index : ∀ component,
    (∃ slot rest, heap.freeList = (heap.alloc component).1.index :: rest ∧
      heap.slots[(heap.alloc component).1.index]? = some slot ∧ slot.isFree = true) ∨
    (heap.freeList = [] ∧ (heap.alloc component).1.index = heap.slots.size)
  /-- Slots in use, borrowed ones among them, are not written by a new component. -/
  alloc_slots : ∀ component (index : Nat) (slot : Slot), heap.slots[index]? = some slot →
    slot.isFree = false → (heap.alloc component).2.slots[index]? = some slot
  alloc_live : ∀ component, (heap.alloc component).2.live = heap.live + 1
  /-- There is one to be taken off the count when a handle is freed. -/
  free_live : ∀ handle, heap.isValid handle = true → (heap.free handle).live + 1 = heap.live
  /-- There are as many to be taken off the count as a collection frees. -/
  collect_live : ∀ roots, (heap.collect roots).live + heap.freed roots = heap.live

/-- Whatever operations built a heap, its books are exact. -/
theorem books_exact (hheap : heap.Built) : heap.Exact := by
  have hbooks := hheap.wellFormed
  constructor
  case live_eq => exact hbooks.live_eq
  case nodup => exact hbooks.nodup
  case mem_freeList => exact hbooks.mem_freeList
  case unmarked =>
    intro slot hslot
    obtain ⟨index, hindex, rfl⟩ := Array.mem_iff_getElem.mp hslot
    exact hbooks.unmarked index _ (Array.getElem?_eq_getElem hindex)
  case alloc_index => exact hbooks.alloc_cases
  case alloc_slots => exact fun component _ _ => hbooks.slots_alloc component
  case alloc_live => exact heap.live_alloc
  case free_live =>
    intro handle hvalid
    rw [live_free hvalid, Nat.sub_add_cancel (hbooks.live_pos hvalid)]
  case collect_live => exact hbooks.size_collect

/-- Two components, the first freed while it is out of the heap, then given back and freed once
more in vain, before its slot is used again. -/
theorem books_exact_of_freed_loan :
    let first : Handle := ⟨⟨0⟩, 0, 0⟩
    let heap := (((Heap.empty ⟨0⟩).alloc (.list [])).2.alloc (.array #[.object first])).2
    let freed := (((heap.lend first).free first).restore first (.list [])).free first
    freed.Exact ∧ (freed.alloc (.text "again")).2.Exact ∧
      freed.freeList = [0] ∧ freed.live = 1 := by
  intro first heap freed
  have hheap : heap.Built := .alloc (.alloc (.empty ⟨0⟩ 0) _) _
  have htake : heap.take? first = some (.list [], heap.lend first) := rfl
  have hlent : (heap.lend first).Built := .take hheap htake
  have hfreed : freed.Built := .free (.restore (.free hlent _) _ _) _
  exact ⟨books_exact hfreed, books_exact (.alloc hfreed _), by decide +kernel, by decide +kernel⟩

end BrightScript.Heap
