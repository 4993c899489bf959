import BrightScript.Proofs.Heap.Slots

namespace BrightScript.Heap

/-- The free list, the count of components and the marks of a heap are in order. -/
structure WellFormed (heap : Heap) : Prop where
  nodup : heap.freeList.Nodup
  mem_freeList : ∀ index : Nat, index ∈ heap.freeList ↔
    ∃ slot : Slot, heap.slots[index]? = some slot ∧ slot.isFree = true
  live_eq : heap.live = heap.slots.countP (!·.isFree)
  unmarked : ∀ (index : Nat) (slot : Slot), heap.slots[index]? = some slot → slot.marked = false

theorem wellFormed_empty (run : RunId) (clock : Nat) :
    WellFormed { run := run, clock := clock } where
  nodup := List.nodup_nil
  mem_freeList := by simp
  live_eq := rfl
  unmarked := by simp

theorem WellFormed.atTime {heap : Heap} (hheap : heap.WellFormed) (time : Nat) :
    (heap.atTime time).WellFormed :=
  ⟨hheap.nodup, hheap.mem_freeList, hheap.live_eq, hheap.unmarked⟩

theorem countP_setIfInBounds {slots : Array Slot} {index : Nat} {old : Slot}
    (hold : slots[index]? = some old) (new : Slot) (p : Slot → Bool) :
    (slots.setIfInBounds index new).countP p + (if p old then 1 else 0) =
      slots.countP p + (if p new then 1 else 0) := by
  obtain ⟨hindex, hget⟩ := Array.getElem?_eq_some_iff.mp hold
  have hpositive : p old = true → 0 < slots.countP p := fun hp =>
    Array.countP_pos_iff.mpr ⟨old, hget ▸ Array.getElem_mem hindex, hp⟩
  simp only [Array.setIfInBounds, hindex, dif_pos, Array.countP_set, hget]
  by_cases hp : p old = true
  · have := hpositive hp
    simp only [hp, if_true]
    omega
  · simp [hp]

theorem unmarked_of_write {slots : Array Slot}
    (hslots : ∀ (index : Nat) (slot : Slot), slots[index]? = some slot → slot.marked = false)
    {index other : Nat} {new slot : Slot} (hnew : new.marked = false)
    (hslot : (slots.setIfInBounds index new)[other]? = some slot) : slot.marked = false := by
  rw [Array.getElem?_setIfInBounds] at hslot
  by_cases hsame : index = other
  · rw [if_pos hsame] at hslot
    split at hslot
    · cases hslot
      exact hnew
    · simp at hslot
  · rw [if_neg hsame] at hslot
    exact hslots other slot hslot

theorem WellFormed.write {heap : Heap} (hheap : heap.WellFormed) {index : Nat} {old new : Slot}
    (hold : heap.slots[index]? = some old) (hfree : new.isFree = old.isFree)
    (hmarked : new.marked = false) :
    WellFormed { heap with slots := heap.slots.setIfInBounds index new } where
  nodup := hheap.nodup
  mem_freeList := by
    intro other
    have hindex : index < heap.slots.size := (Array.getElem?_eq_some_iff.mp hold).1
    rw [hheap.mem_freeList other]
    by_cases hsame : index = other
    · subst hsame
      have hget := (Array.getElem?_eq_some_iff.mp hold).2
      simp [hindex, hget, hfree]
    · simp [hsame]
  live_eq := by
    have hcount := countP_setIfInBounds hold new (!·.isFree)
    rw [hfree, Nat.add_right_cancel_iff] at hcount
    exact hheap.live_eq.trans hcount.symm
  unmarked := fun _ _ hslot => unmarked_of_write hheap.unmarked hmarked hslot

theorem WellFormed.setState {heap : Heap} (hheap : heap.WellFormed) (handle : Handle)
    {state : SlotState} (hstate : state ≠ .free) : (heap.setState handle state).WellFormed := by
  unfold Heap.setState
  split
  · rename_i slot hslot
    obtain ⟨-, hindex, -, hfree⟩ := slot?_eq_some_iff.mp hslot
    refine hheap.write hindex ?_ ?_
    · rw [hfree]
      exact Slot.isFree_eq_false_iff.mpr hstate
    · exact hheap.unmarked handle.index slot hindex
  · exact hheap

theorem WellFormed.set {heap : Heap} (hheap : heap.WellFormed) (handle : Handle)
    (component : Component) : (heap.set handle component).WellFormed := by
  unfold Heap.set
  split
  · exact hheap.setState handle (by simp)
  · exact hheap

theorem WellFormed.lend {heap : Heap} (hheap : heap.WellFormed) (handle : Handle) :
    (heap.lend handle).WellFormed :=
  hheap.setState handle (by simp)

theorem WellFormed.restore {heap : Heap} (hheap : heap.WellFormed) (handle : Handle)
    (component : Component) : (heap.restore handle component).WellFormed := by
  unfold Heap.restore
  split
  · exact hheap.setState handle (by simp)
  · exact hheap

theorem WellFormed.free {heap : Heap} (hheap : heap.WellFormed) (handle : Handle) :
    (heap.free handle).WellFormed := by
  unfold Heap.free
  split
  · rename_i slot hslot
    obtain ⟨-, hindex, -, hfree⟩ := slot?_eq_some_iff.mp hslot
    have hbound : handle.index < heap.slots.size := (Array.getElem?_eq_some_iff.mp hindex).1
    have hfresh : handle.index ∉ heap.freeList := by
      intro hmem
      obtain ⟨other, hother, hotherFree⟩ := (hheap.mem_freeList _).mp hmem
      rw [hindex] at hother
      cases hother
      simp [hfree] at hotherFree
    constructor
    · exact List.nodup_cons.mpr ⟨hfresh, hheap.nodup⟩
    · intro other
      rw [List.mem_cons, hheap.mem_freeList other]
      by_cases hsame : handle.index = other
      · subst hsame
        simp [hbound, Slot.isFree]
      · simp [hsame, Ne.symm hsame]
    · let released : Slot := { generation := slot.generation + 1 }
      have hreleased : released.isFree = true := rfl
      have hcount := countP_setIfInBounds hindex released (!·.isFree)
      have hlive := hheap.live_eq
      simp only [hfree, hreleased, Bool.not_false, Bool.not_true, if_true, Bool.false_eq_true,
        if_false] at hcount
      change heap.live - 1 = (heap.slots.setIfInBounds handle.index released).countP _
      omega
    · intro other found hfound
      exact unmarked_of_write hheap.unmarked rfl hfound
  · exact hheap

theorem WellFormed.head_freeList {heap : Heap} (hheap : heap.WellFormed) {index : Nat}
    {rest : List Nat} (hlist : heap.freeList = index :: rest) :
    ∃ slot, heap.slots[index]? = some slot ∧ slot.isFree = true :=
  (hheap.mem_freeList index).mp (by simp [hlist])

/-- A new component gets a handle that meant nothing before; all other handles keep their
meaning. -/
theorem WellFormed.slot?_alloc {heap : Heap} (hheap : heap.WellFormed) (component : Component) :
    ∃ slot : Slot, slot.state = .occupied component ∧ slot.marked = false ∧
      heap.slot? (heap.alloc component).1 = none ∧
      ∀ handle, (heap.alloc component).2.slot? handle =
        if (heap.alloc component).1 = handle then some slot else heap.slot? handle := by
  unfold Heap.alloc
  split
  · rename_i index rest hlist
    obtain ⟨old, hold, hfree⟩ := hheap.head_freeList hlist
    have hbound : index < heap.slots.size := (Array.getElem?_eq_some_iff.mp hold).1
    let new : Slot := { generation := old.generation + 1, state := .occupied component }
    -- the slot is free, so that no handle of an earlier generation means anything
    have hunused : ∀ handle : Handle, handle.index = index → heap.slot? handle = none := by
      intro handle hplace
      rw [Option.eq_none_iff_forall_ne_some]
      intro slot hslot
      obtain ⟨-, hat, -, hused⟩ := slot?_eq_some_iff.mp hslot
      rw [hplace, hold] at hat
      cases hat
      simp [hfree] at hused
    refine ⟨new, rfl, rfl, hunused _ rfl, ?_⟩
    intro handle
    simp only [hold, Option.getD_some]
    change { heap with slots := heap.slots.setIfInBounds index new }.slot? handle = _
    rw [slot?_write hbound]
    split
    · rename_i hplace
      split
      · rename_i hgen
        rw [if_pos]
        cases handle
        simp_all [new]
      · rename_i hgen
        rw [if_neg, hunused handle hplace.2]
        rintro rfl
        exact hgen ⟨rfl, rfl⟩
    · rename_i hplace
      rw [if_neg]
      rintro rfl
      exact hplace ⟨rfl, rfl⟩
  · refine ⟨{ state := .occupied component }, rfl, rfl, ?_, ?_⟩
    · simp [slot?]
    · intro handle
      unfold slot?
      by_cases hrun : handle.run = heap.run
      · by_cases hplace : handle.index = heap.slots.size
        · rw [if_pos hrun, if_pos hrun, Array.getElem?_push, if_pos hplace, Option.filter_some]
          cases handle
          simp_all [Slot.isFree]
        · have hdiffer : ¬ (⟨heap.run, heap.slots.size, 0⟩ : Handle) = handle := by
            rintro rfl
            exact hplace rfl
          rw [if_pos hrun, if_pos hrun, Array.getElem?_push, if_neg hplace, if_neg hdiffer]
      · have hdiffer : ¬ (⟨heap.run, heap.slots.size, 0⟩ : Handle) = handle := by
          rintro rfl
          exact hrun rfl
        rw [if_neg hrun, if_neg hrun, if_neg hdiffer]

theorem WellFormed.alloc {heap : Heap} (hheap : heap.WellFormed) (component : Component) :
    (heap.alloc component).2.WellFormed := by
  unfold Heap.alloc
  split
  · rename_i index rest hlist
    obtain ⟨old, hold, hfree⟩ := hheap.head_freeList hlist
    have hbound : index < heap.slots.size := (Array.getElem?_eq_some_iff.mp hold).1
    have hnodup := hheap.nodup
    rw [hlist, List.nodup_cons] at hnodup
    constructor
    · exact hnodup.2
    · intro other
      have hmem := hheap.mem_freeList other
      rw [hlist, List.mem_cons] at hmem
      by_cases hsame : index = other
      · subst hsame
        simp [hbound, hnodup.1, Slot.isFree]
      · simp only [Ne.symm hsame, false_or] at hmem
        simp [hmem, hsame]
    · let new : Slot :=
        { generation := (heap.slots[index]?.getD {}).generation + 1, state := .occupied component }
      have hused : new.isFree = false := rfl
      have hcount := countP_setIfInBounds hold new (!·.isFree)
      have hlive := hheap.live_eq
      simp only [hfree, hused, Bool.not_false, Bool.not_true, if_true, Bool.false_eq_true,
        if_false] at hcount
      change heap.live + 1 = (heap.slots.setIfInBounds index new).countP _
      omega
    · intro other slot hslot
      exact unmarked_of_write hheap.unmarked rfl hslot
  · rename_i hlist
    constructor
    · simp [hlist]
    · intro other
      have hmem := hheap.mem_freeList other
      simp only [hlist, Array.getElem?_push] at hmem ⊢
      split
      · simp [Slot.isFree]
      · exact hmem
    · rw [Array.countP_push, hheap.live_eq]
      rfl
    · intro other slot hslot
      rw [Array.getElem?_push] at hslot
      split at hslot
      · cases hslot
        rfl
      · exact hheap.unmarked other slot hslot

theorem WellFormed.get?_alloc {heap : Heap} (hheap : heap.WellFormed) (component : Component)
    (handle : Handle) :
    (heap.alloc component).2.get? handle =
      if (heap.alloc component).1 = handle then some component else heap.get? handle := by
  obtain ⟨slot, hstate, -, -, hslots⟩ := hheap.slot?_alloc component
  unfold get?
  rw [hslots]
  split
  · exact Slot.component?_eq_some_iff.mpr hstate
  · rfl

theorem WellFormed.isValid_alloc {heap : Heap} (hheap : heap.WellFormed) (component : Component)
    (handle : Handle) :
    (heap.alloc component).2.isValid handle =
      (decide ((heap.alloc component).1 = handle) || heap.isValid handle) := by
  obtain ⟨slot, -, -, -, hslots⟩ := hheap.slot?_alloc component
  unfold isValid
  rw [hslots]
  split <;> simp_all

theorem WellFormed.isValid_alloc_fst {heap : Heap} (hheap : heap.WellFormed)
    (component : Component) : heap.isValid (heap.alloc component).1 = false := by
  obtain ⟨slot, -, -, hnone, -⟩ := hheap.slot?_alloc component
  simp [isValid, hnone]

theorem WellFormed.isValid_alloc_self {heap : Heap} (hheap : heap.WellFormed)
    (component : Component) : (heap.alloc component).2.isValid (heap.alloc component).1 = true := by
  rw [hheap.isValid_alloc, decide_eq_true rfl, Bool.true_or]

@[simp] theorem clock_alloc (heap : Heap) (component : Component) :
    (heap.alloc component).2.clock = heap.clock := by
  unfold alloc
  split <;> rfl

end BrightScript.Heap
