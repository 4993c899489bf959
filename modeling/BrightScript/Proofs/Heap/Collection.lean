import BrightScript.Proofs.Heap.Bookkeeping

/-!
Collections free exactly the garbage. Marking marks a slot if and only if its handle can be reached
from the roots, whatever cycles and stale handles there are; sweeping then frees the components that
were not marked. The invariant of the marking loop says that what is marked points only at what is
marked or pending.
-/

namespace BrightScript.Heap

/-- The handles that can be reached from valid roots by following the references of components. -/
inductive Reaches (heap : Heap) (roots : List Handle) : Handle → Prop
  | root {handle : Handle} (hroot : handle ∈ roots) (hvalid : heap.isValid handle = true) :
      Reaches heap roots handle
  | step {handle other : Handle} {component : Component} (hreach : Reaches heap roots handle)
      (hget : heap.get? handle = some component) (hother : other ∈ component.references)
      (hvalid : heap.isValid other = true) : Reaches heap roots other

theorem Reaches.isValid {heap : Heap} {roots : List Handle} {handle : Handle}
    (hreach : heap.Reaches roots handle) : heap.isValid handle = true := by
  cases hreach with
  | root _ hvalid => exact hvalid
  | step _ _ _ hvalid => exact hvalid

theorem Reaches.trans {heap : Heap} {first second : List Handle} {handle : Handle}
    (hfirst : ∀ root ∈ first, heap.isValid root = true → heap.Reaches second root)
    (hreach : heap.Reaches first handle) : heap.Reaches second handle := by
  induction hreach with
  | root hroot hvalid => exact hfirst _ hroot hvalid
  | step _ hget hother hvalid ih => exact .step ih hget hother hvalid

theorem Reaches.congr {heap other : Heap} {roots : List Handle} {handle : Handle}
    (hget : ∀ handle, other.get? handle = heap.get? handle)
    (hvalid : ∀ handle, other.isValid handle = heap.isValid handle)
    (hreach : other.Reaches roots handle) : heap.Reaches roots handle := by
  induction hreach with
  | root hroot hv => exact .root hroot ((hvalid _).symm.trans hv)
  | step _ hg hother hv ih =>
      exact .step ih ((hget _).symm.trans hg) hother ((hvalid _).symm.trans hv)

def cleared (slot : Slot) : Slot := { slot with marked := false }

theorem cleared_eq_self {slot : Slot} (hslot : slot.marked = false) : cleared slot = slot := by
  cases slot
  simp_all [cleared]

/-- Two heaps of one run whose slots differ at most in their marks. -/
structure SameButMarks (heap other : Heap) : Prop where
  run : other.run = heap.run
  slots : ∀ index : Nat, (other.slots[index]?).map cleared = (heap.slots[index]?).map cleared

namespace SameButMarks

theorem slot? {heap other : Heap} (hsame : heap.SameButMarks other) (handle : Handle) :
    (other.slot? handle).map cleared = (heap.slot? handle).map cleared := by
  have hat := hsame.slots handle.index
  unfold Heap.slot?
  rw [hsame.run]
  split
  · cases hother : other.slots[handle.index]? with
    | none =>
        cases hheap : heap.slots[handle.index]? with
        | none => rfl
        | some slot => simp [hother, hheap] at hat
    | some found =>
        cases hheap : heap.slots[handle.index]? with
        | none => simp [hother, hheap] at hat
        | some slot =>
            rw [hother, hheap, Option.map_some, Option.map_some, Option.some.injEq] at hat
            have hgen : (cleared found).generation = (cleared slot).generation := by rw [hat]
            have hfree : (cleared found).isFree = (cleared slot).isFree := by rw [hat]
            change found.generation = slot.generation at hgen
            change found.isFree = slot.isFree at hfree
            rw [Option.filter_some, Option.filter_some, hgen, hfree]
            split
            · rw [Option.map_some, Option.map_some, hat]
            · rfl
  · rfl

theorem get? {heap other : Heap} (hsame : heap.SameButMarks other) (handle : Handle) :
    other.get? handle = heap.get? handle := by
  have hslot := congrArg (fun slot? : Option Slot => slot?.bind Slot.component?)
    (hsame.slot? handle)
  simp only [Option.bind_map, Function.comp_def, cleared, Slot.component?_marked] at hslot
  exact hslot

theorem isValid {heap other : Heap} (hsame : heap.SameButMarks other) (handle : Handle) :
    other.isValid handle = heap.isValid handle := by
  have hslot := congrArg Option.isSome (hsame.slot? handle)
  rw [Option.isSome_map, Option.isSome_map] at hslot
  exact hslot

theorem trans {first second third : Heap} (h₁ : first.SameButMarks second)
    (h₂ : second.SameButMarks third) : first.SameButMarks third where
  run := h₂.run.trans h₁.run
  slots := fun index => (h₂.slots index).trans (h₁.slots index)

theorem markAt {heap : Heap} {handle : Handle} {slot : Slot}
    (hslot : heap.slot? handle = some slot) :
    heap.SameButMarks (heap.markAt handle.index slot) where
  run := rfl
  slots := by
    intro index
    have hat := getElem?_of_slot? hslot
    have hbound : handle.index < heap.slots.size := (Array.getElem?_eq_some_iff.mp hat).1
    rw [Heap.markAt, Array.getElem?_setIfInBounds]
    by_cases hplace : handle.index = index
    · rw [if_pos hplace, if_pos hbound, ← hplace, hat]
      rfl
    · rw [if_neg hplace]

theorem mark (heap : Heap) (pending : List Handle) :
    heap.SameButMarks (heap.mark pending) := by
  fun_induction Heap.mark heap pending with
  | case1 => exact ⟨rfl, fun _ => rfl⟩
  | case2 heap handle pending hslot ih => exact ih
  | case3 heap handle pending slot hslot hfresh hless ih => exact (markAt hslot).trans ih
  | case4 heap handle pending slot hslot hmarked ih => exact ih

end SameButMarks

@[simp] theorem get?_mark (heap : Heap) (pending : List Handle) (handle : Handle) :
    (heap.mark pending).get? handle = heap.get? handle :=
  (SameButMarks.mark heap pending).get? handle

@[simp] theorem isValid_mark (heap : Heap) (pending : List Handle) (handle : Handle) :
    (heap.mark pending).isValid handle = heap.isValid handle :=
  (SameButMarks.mark heap pending).isValid handle

theorem mark_eq_slots (heap : Heap) (pending : List Handle) :
    heap.mark pending = { heap with slots := (heap.mark pending).slots } := by
  fun_induction Heap.mark heap pending with
  | case1 => rfl
  | case2 heap handle pending hslot ih => exact ih
  | case3 heap handle pending slot hslot hfresh hless ih => exact ih
  | case4 heap handle pending slot hslot hmarked ih => exact ih

/-- Whether the slot that a handle means is marked. -/
def IsMarked (heap : Heap) (handle : Handle) : Prop :=
  ∃ slot, heap.slot? handle = some slot ∧ slot.marked = true

theorem slot?_markAt {heap : Heap} {handle : Handle} {slot : Slot}
    (hslot : heap.slot? handle = some slot) (other : Handle) :
    (heap.markAt handle.index slot).slot? other =
      if handle = other then some { slot with marked := true } else heap.slot? other := by
  obtain ⟨hrun, hindex, hgen, hfree⟩ := slot?_eq_some_iff.mp hslot
  have hbound : handle.index < heap.slots.size := (Array.getElem?_eq_some_iff.mp hindex).1
  rw [markAt, slot?_write hbound]
  split
  · rename_i hplace
    split
    · rename_i hmatch
      rw [if_pos]
      cases handle
      cases other
      simp_all
    · rename_i hmatch
      rw [if_neg]
      · symm
        rw [Option.eq_none_iff_forall_ne_some]
        intro found hfound
        obtain ⟨-, hat, hother, -⟩ := slot?_eq_some_iff.mp hfound
        rw [hplace.2, hindex] at hat
        cases hat
        exact hmatch ⟨hother, hfree⟩
      · rintro rfl
        exact hmatch ⟨hgen, hfree⟩
  · rename_i hplace
    rw [if_neg]
    rintro rfl
    exact hplace ⟨hrun, rfl⟩

theorem isMarked_markAt_iff {heap : Heap} {handle : Handle} {slot : Slot}
    (hslot : heap.slot? handle = some slot) (other : Handle) :
    (heap.markAt handle.index slot).IsMarked other ↔ handle = other ∨ heap.IsMarked other := by
  unfold IsMarked
  rw [slot?_markAt hslot]
  by_cases hsame : handle = other
  · simp [hsame]
  · simp [hsame]

theorem references_eq {heap : Heap} {handle : Handle} {slot : Slot}
    (hslot : heap.slot? handle = some slot) {component : Component}
    (hget : heap.get? handle = some component) : slot.references = component.references := by
  obtain ⟨found, hfound, hstate⟩ := get?_eq_some_iff.mp hget
  rw [hslot] at hfound
  cases hfound
  rw [Slot.references, Slot.component?_eq_some_iff.mpr hstate]

theorem reaches_of_marked (heap : Heap) (pending : List Handle) {index : Nat} {slot : Slot}
    (hslot : (heap.mark pending).slots[index]? = some slot) (hmarked : slot.marked = true) :
    (∃ old : Slot, heap.slots[index]? = some old ∧ old.marked = true) ∨
      ∃ handle : Handle, handle.index = index ∧ heap.Reaches pending handle := by
  have hweaken : ∀ (heap : Heap) (handle : Handle) (pending : List Handle) (root : Handle),
      root ∈ pending → heap.isValid root = true → heap.Reaches (handle :: pending) root :=
    fun _ _ _ _ hroot hvalid => .root (List.mem_cons_of_mem _ hroot) hvalid
  fun_induction mark heap pending with
  | case1 heap => exact .inl ⟨slot, hslot, hmarked⟩
  | case2 heap handle pending hnone ih =>
      rcases ih hslot with hold | ⟨target, hindex, hreach⟩
      · exact .inl hold
      · exact .inr ⟨target, hindex, hreach.trans (hweaken heap handle pending)⟩
  | case3 heap handle pending found hfound hfresh hless ih =>
      have hsame := SameButMarks.markAt hfound
      have hroot : heap.Reaches (handle :: pending) handle :=
        .root List.mem_cons_self (isValid_iff.mpr ⟨found, hfound⟩)
      rcases ih hslot with ⟨old, hold, holdMarked⟩ | ⟨target, hindex, hreach⟩
      · rw [markAt, Array.getElem?_setIfInBounds] at hold
        by_cases hplace : handle.index = index
        · exact .inr ⟨handle, hplace, hroot⟩
        · rw [if_neg hplace] at hold
          exact .inl ⟨old, hold, holdMarked⟩
      · refine .inr ⟨target, hindex, (hreach.congr hsame.get? hsame.isValid).trans ?_⟩
        intro root hmem hvalid
        rcases List.mem_append.mp hmem with href | hmem
        · obtain ⟨component, hcomponent⟩ : ∃ component, found.component? = some component := by
            cases hc : found.component? with
            | none => simp [Slot.references, hc] at href
            | some component => exact ⟨component, rfl⟩
          have hget : heap.get? handle = some component :=
            get?_eq_some_iff.mpr ⟨found, hfound, Slot.component?_eq_some_iff.mp hcomponent⟩
          rw [references_eq hfound hget] at href
          exact .step hroot hget href hvalid
        · exact hweaken heap handle pending root hmem hvalid
  | case4 heap handle pending found hfound hbefore ih =>
      rcases ih hslot with hold | ⟨target, hindex, hreach⟩
      · exact .inl hold
      · exact .inr ⟨target, hindex, hreach.trans (hweaken heap handle pending)⟩

/-- The invariant of the marking loop: what is marked points only at handles that are stale, marked
or pending. -/
def Tracked (heap : Heap) (pending : List Handle) : Prop :=
  ∀ handle component, heap.IsMarked handle → heap.get? handle = some component →
    ∀ other ∈ component.references, heap.isValid other = true →
      heap.IsMarked other ∨ other ∈ pending

theorem isMarked_mark_of_isMarked {heap : Heap} (pending : List Handle) {handle : Handle}
    (hmarked : heap.IsMarked handle) : (heap.mark pending).IsMarked handle := by
  fun_induction mark heap pending with
  | case1 => exact hmarked
  | case2 heap next pending hnone ih => exact ih hmarked
  | case3 heap next pending slot hslot hfresh hless ih =>
      exact ih ((isMarked_markAt_iff hslot handle).mpr (.inr hmarked))
  | case4 heap next pending slot hslot hbefore ih => exact ih hmarked

theorem isMarked_mark_of_mem {heap : Heap} {pending : List Handle} {handle : Handle}
    (hmem : handle ∈ pending) (hvalid : heap.isValid handle = true) :
    (heap.mark pending).IsMarked handle := by
  fun_induction mark heap pending with
  | case1 => simp at hmem
  | case2 heap next pending hnone ih =>
      rcases List.mem_cons.mp hmem with rfl | hmem
      · simp [isValid, hnone] at hvalid
      · exact ih hmem hvalid
  | case3 heap next pending slot hslot hfresh hless ih =>
      rcases List.mem_cons.mp hmem with rfl | hmem
      · exact isMarked_mark_of_isMarked _ ((isMarked_markAt_iff hslot _).mpr (.inl rfl))
      · refine ih (List.mem_append_right _ hmem) ?_
        rw [(SameButMarks.markAt hslot).isValid]
        exact hvalid
  | case4 heap next pending slot hslot hbefore ih =>
      rcases List.mem_cons.mp hmem with rfl | hmem
      · exact isMarked_mark_of_isMarked _ ⟨slot, hslot, by simpa using hbefore⟩
      · exact ih hmem hvalid

theorem Tracked.mark {heap : Heap} {pending : List Handle} (htracked : heap.Tracked pending) :
    (heap.mark pending).Tracked [] := by
  fun_induction Heap.mark heap pending with
  | case1 => exact htracked
  | case2 heap next pending hnone ih =>
      apply ih
      intro handle component hmarked hget other hother hvalid
      rcases htracked handle component hmarked hget other hother hvalid with hdone | hmem
      · exact .inl hdone
      · rcases List.mem_cons.mp hmem with rfl | hmem
        · simp [isValid, hnone] at hvalid
        · exact .inr hmem
  | case3 heap next pending slot hslot hfresh hless ih =>
      have hsame := SameButMarks.markAt hslot
      apply ih
      intro handle component hmarked hget other hother hvalid
      rw [hsame.get?] at hget
      rw [hsame.isValid] at hvalid
      rw [isMarked_markAt_iff hslot] at hmarked ⊢
      rcases hmarked with rfl | hmarked
      · right
        rw [references_eq hslot hget]
        exact List.mem_append_left _ hother
      · rcases htracked handle component hmarked hget other hother hvalid with hdone | hmem
        · exact .inl (.inr hdone)
        · rcases List.mem_cons.mp hmem with rfl | hmem
          · exact .inl (.inl rfl)
          · exact .inr (List.mem_append_right _ hmem)
  | case4 heap next pending slot hslot hbefore ih =>
      apply ih
      intro handle component hmarked hget other hother hvalid
      rcases htracked handle component hmarked hget other hother hvalid with hdone | hmem
      · exact .inl hdone
      · rcases List.mem_cons.mp hmem with rfl | hmem
        · exact .inl ⟨slot, hslot, by simpa using hbefore⟩
        · exact .inr hmem

theorem WellFormed.not_isMarked {heap : Heap} (hheap : heap.WellFormed) (handle : Handle) :
    ¬ heap.IsMarked handle := by
  rintro ⟨slot, hslot, hmarked⟩
  simp [hheap.unmarked _ _ (getElem?_of_slot? hslot)] at hmarked

/-- Marking a heap without marks marks exactly what can be reached. -/
theorem WellFormed.isMarked_mark_iff {heap : Heap} (hheap : heap.WellFormed)
    (roots : List Handle) (handle : Handle) :
    (heap.mark roots).IsMarked handle ↔ heap.Reaches roots handle := by
  constructor
  · rintro ⟨slot, hslot, hmarked⟩
    obtain ⟨hrun, hindex, hgen, -⟩ := slot?_eq_some_iff.mp hslot
    rcases reaches_of_marked heap roots hindex hmarked with ⟨old, hold, hbefore⟩ |
      ⟨target, hplace, hreach⟩
    · simp [hheap.unmarked _ _ hold] at hbefore
    · -- the reached handle is valid and means the same slot, so that it is this one
      have hvalid := hreach.isValid
      rw [← isValid_mark heap roots] at hvalid
      obtain ⟨found, hfound⟩ := isValid_iff.mp hvalid
      obtain ⟨hrun', hindex', hgen', -⟩ := slot?_eq_some_iff.mp hfound
      rw [hplace, hindex] at hindex'
      cases hindex'
      have hsame : target = handle := by
        cases target
        cases handle
        simp_all
      rwa [← hsame]
  · intro hreach
    -- nothing is marked at the start, and at the end nothing is pending
    have htracked : heap.Tracked roots := fun other _ hmarked =>
      absurd hmarked (hheap.not_isMarked other)
    induction hreach with
    | root hroot hvalid => exact isMarked_mark_of_mem hroot hvalid
    | step _ hget hother hvalid ih =>
        have hclosed := htracked.mark _ _ ih (by rwa [get?_mark]) _ hother (by rwa [isValid_mark])
        simpa using hclosed

theorem slots_sweep (heap : Heap) (index : Nat) :
    heap.sweep.slots[index]? = (heap.slots[index]?).map Slot.swept := by
  simp [sweep]

theorem isFree_swept (slot : Slot) : slot.swept.isFree = (slot.isFree || slot.isGarbage) := by
  unfold Slot.swept
  split
  · rename_i hgarbage
    simp [hgarbage, Slot.isFree]
  · rename_i hgarbage
    simp [hgarbage]

theorem isFree_eq_false_of_isGarbage {slot : Slot} (hgarbage : slot.isGarbage = true) :
    slot.isFree = false := by
  simp only [Slot.isGarbage, Bool.and_eq_true, Option.isSome_iff_exists] at hgarbage
  obtain ⟨-, component, hcomponent⟩ := hgarbage
  rw [Slot.component?_eq_some_iff] at hcomponent
  simp [Slot.isFree, hcomponent]

theorem slot?_sweep_eq_some_iff {heap : Heap} {handle : Handle} {slot : Slot} :
    heap.sweep.slot? handle = some slot ↔
      ∃ old, heap.slot? handle = some old ∧ old.isGarbage = false ∧ slot = cleared old := by
  constructor
  · intro hslot
    obtain ⟨hrun, hindex, hgen, hfree⟩ := slot?_eq_some_iff.mp hslot
    rw [slots_sweep, Option.map_eq_some_iff] at hindex
    obtain ⟨old, hold, rfl⟩ := hindex
    rw [isFree_swept, Bool.or_eq_false_iff] at hfree
    have hkept : old.swept = cleared old := by
      rw [Slot.swept, hfree.2]
      rfl
    rw [hkept] at hgen ⊢
    exact ⟨old, slot?_eq_some_iff.mpr ⟨hrun, hold, hgen, hfree.1⟩, hfree.2, rfl⟩
  · rintro ⟨old, hold, hkeep, rfl⟩
    obtain ⟨hrun, hindex, hgen, hfree⟩ := slot?_eq_some_iff.mp hold
    refine slot?_eq_some_iff.mpr ⟨hrun, ?_, hgen, hfree⟩
    rw [slots_sweep, hindex, Option.map_some, Slot.swept, hkeep]
    rfl

theorem mem_garbage_iff {heap : Heap} {index : Nat} :
    index ∈ heap.garbage ↔
      ∃ slot : Slot, heap.slots[index]? = some slot ∧ slot.isGarbage = true := by
  rw [garbage, List.mem_filter, List.mem_range]
  constructor
  · rintro ⟨hbound, hgarbage⟩
    rw [Array.getElem?_eq_getElem hbound] at hgarbage
    exact ⟨_, Array.getElem?_eq_getElem hbound, hgarbage⟩
  · rintro ⟨slot, hslot, hgarbage⟩
    refine ⟨(Array.getElem?_eq_some_iff.mp hslot).1, ?_⟩
    rw [hslot]
    exact hgarbage

theorem length_filter_range (slots : List Slot) (p : Slot → Bool) :
    ((List.range slots.length).filter fun index => (slots[index]?.map p).getD false).length =
      slots.countP p := by
  have hrange : (List.range slots.length).map (slots[·]?) = slots.map some := by
    apply List.ext_getElem?
    intro index
    by_cases hindex : index < slots.length
    · simp [hindex]
    · simp [hindex]
  calc
    _ = (List.range slots.length).countP fun index => (slots[index]?.map p).getD false :=
      List.countP_eq_length_filter.symm
    _ = ((List.range slots.length).map (slots[·]?)).countP fun slot => (slot.map p).getD false := by
      rw [List.countP_map]
      rfl
    _ = slots.countP p := by
      rw [hrange, List.countP_map]
      rfl

theorem length_garbage (heap : Heap) :
    heap.garbage.length = heap.slots.countP Slot.isGarbage := by
  have hlength := length_filter_range heap.slots.toList Slot.isGarbage
  rw [Array.countP_toList] at hlength
  simpa [garbage] using hlength

theorem countP_map_swept (slots : List Slot) :
    slots.countP (!·.isFree) =
      (slots.map Slot.swept).countP (!·.isFree) + slots.countP Slot.isGarbage := by
  induction slots with
  | nil => rfl
  | cons slot slots ih =>
      rw [List.map_cons, List.countP_cons, List.countP_cons, List.countP_cons, ih, isFree_swept]
      cases hgarbage : slot.isGarbage with
      | true =>
          have hused := isFree_eq_false_of_isGarbage hgarbage
          simp only [hused, Bool.not_false, if_true, Bool.or_true, Bool.not_true,
            Bool.false_eq_true, if_false]
          omega
      | false =>
          simp only [Bool.or_false, Bool.false_eq_true, if_false]
          omega

theorem countP_sweep (heap : Heap) :
    heap.slots.countP (!·.isFree) =
      heap.sweep.slots.countP (!·.isFree) + heap.garbage.length := by
  have hcount := countP_map_swept heap.slots.toList
  rw [← Array.toList_map, Array.countP_toList, Array.countP_toList, Array.countP_toList] at hcount
  rw [length_garbage]
  exact hcount

theorem WellFormed.mark {heap : Heap} (hheap : heap.WellFormed) (roots : List Handle) :
    (heap.mark roots).freeList.Nodup ∧
      (∀ index : Nat, index ∈ (heap.mark roots).freeList ↔
        ∃ slot : Slot, (heap.mark roots).slots[index]? = some slot ∧ slot.isFree = true) ∧
      (heap.mark roots).live = (heap.mark roots).slots.countP (!·.isFree) := by
  have hsame := SameButMarks.mark heap roots
  have hlists : (heap.mark roots).slots.map cleared = heap.slots.map cleared := by
    apply Array.ext_getElem?
    intro index
    simpa using hsame.slots index
  rw [mark_eq_slots]
  refine ⟨hheap.nodup, ?_, ?_⟩
  · intro index
    change index ∈ heap.freeList ↔ _
    rw [hheap.mem_freeList]
    have hfree : ((heap.mark roots).slots[index]?).map Slot.isFree =
        (heap.slots[index]?).map Slot.isFree := by
      have hat := congrArg (Option.map Slot.isFree) (hsame.slots index)
      simpa only [Option.map_map, Function.comp_def, cleared, Slot.isFree_marked] using hat
    simpa only [Option.map_eq_some_iff] using
      (show (heap.slots[index]?).map Slot.isFree = some true ↔
        ((heap.mark roots).slots[index]?).map Slot.isFree = some true by rw [hfree])
  · change heap.live = _
    have hcount := congrArg (Array.countP (!·.isFree)) hlists
    simp only [Array.countP_map, Function.comp_def, cleared, Slot.isFree_marked] at hcount
    rw [hheap.live_eq, hcount]

theorem WellFormed.collect {heap : Heap} (hheap : heap.WellFormed) (roots : List Handle) :
    (heap.collect roots).WellFormed := by
  obtain ⟨hnodup, hmem, hlive⟩ := hheap.mark roots
  constructor
  · change ((heap.mark roots).garbage.reverse ++ (heap.mark roots).freeList).Nodup
    rw [List.nodup_append]
    refine ⟨List.nodup_reverse.mpr (List.nodup_range.filter _), hnodup, ?_⟩
    intro index hgarbage other hother hsame
    subst hsame
    rw [List.mem_reverse] at hgarbage
    obtain ⟨slot, hslot, hg⟩ := mem_garbage_iff.mp hgarbage
    obtain ⟨found, hfound, hfree⟩ := (hmem index).mp hother
    rw [hslot] at hfound
    cases hfound
    simp [isFree_eq_false_of_isGarbage hg] at hfree
  · intro index
    change index ∈ (heap.mark roots).garbage.reverse ++ (heap.mark roots).freeList ↔
      ∃ slot : Slot, (heap.mark roots).sweep.slots[index]? = some slot ∧ _
    rw [List.mem_append, List.mem_reverse, mem_garbage_iff, hmem, slots_sweep]
    cases (heap.mark roots).slots[index]? with
    | none => simp
    | some slot => simp [isFree_swept, or_comm]
  · change (heap.mark roots).live - (heap.mark roots).garbage.length =
      ((heap.mark roots).slots.map Slot.swept).countP (!·.isFree)
    have hcount := countP_sweep (heap.mark roots)
    change _ = ((heap.mark roots).slots.map Slot.swept).countP _ + _ at hcount
    omega
  · intro index slot hslot
    change (heap.mark roots).sweep.slots[index]? = some slot at hslot
    rw [slots_sweep, Option.map_eq_some_iff] at hslot
    obtain ⟨old, -, rfl⟩ := hslot
    unfold Slot.swept
    split <;> rfl

/-- After a collection a handle means its slot, as it was, if the slot is borrowed or the handle can
be reached, and otherwise nothing. -/
theorem WellFormed.slot?_collect_eq_some_iff {heap : Heap} (hheap : heap.WellFormed)
    (roots : List Handle) {handle : Handle} {slot : Slot} :
    (heap.collect roots).slot? handle = some slot ↔
      heap.slot? handle = some slot ∧
        (slot.state = .borrowed ∨ heap.Reaches roots handle) := by
  have hsame := (SameButMarks.mark heap roots).slot? handle
  rw [Heap.collect, slot?_sweep_eq_some_iff, ← hheap.isMarked_mark_iff roots handle]
  constructor
  · rintro ⟨old, hold, hkeep, rfl⟩
    rw [hold, Option.map_some] at hsame
    obtain ⟨before, hbefore, hcleared⟩ := Option.map_eq_some_iff.mp hsame.symm
    rw [cleared_eq_self (hheap.unmarked _ _ (getElem?_of_slot? hbefore))] at hcleared
    refine ⟨hcleared ▸ hbefore, ?_⟩
    obtain ⟨-, -, -, hfree⟩ := slot?_eq_some_iff.mp hold
    rw [Slot.isFree_eq_false_iff] at hfree
    cases hstate : old.state with
    | free => exact absurd hstate hfree
    | occupied component =>
        refine .inr ⟨old, hold, ?_⟩
        simpa [Slot.isGarbage, Slot.component?, hstate] using hkeep
    | borrowed => exact .inl hstate
  · rintro ⟨hslot, hreason⟩
    rw [hslot, Option.map_some] at hsame
    obtain ⟨marked, hmarked, hcleared⟩ := Option.map_eq_some_iff.mp hsame
    rw [cleared_eq_self (hheap.unmarked _ _ (getElem?_of_slot? hslot))] at hcleared
    refine ⟨marked, hmarked, ?_, hcleared.symm⟩
    rcases hreason with hborrowed | ⟨found, hfound, hset⟩
    · have hstate : marked.state = .borrowed := by
        rw [← hborrowed, ← hcleared]
        rfl
      simp [Slot.isGarbage, Slot.component?, hstate]
    · rw [hmarked] at hfound
      cases hfound
      simp [Slot.isGarbage, hset]

theorem Reaches.mono {heap : Heap} {roots others : List Handle} {handle : Handle}
    (hsub : ∀ root, heap.isValid root = true → root ∈ roots → root ∈ others)
    (hreach : heap.Reaches roots handle) : heap.Reaches others handle :=
  hreach.trans fun root hroot hvalid => .root (hsub root hvalid hroot) hvalid

theorem WellFormed.marked_of_subset {heap : Heap} (hheap : heap.WellFormed)
    {roots others : List Handle}
    (hsub : ∀ root, heap.isValid root = true → root ∈ roots → root ∈ others) {index : Nat}
    {slot other : Slot} (hslot : (heap.mark roots).slots[index]? = some slot)
    (hother : (heap.mark others).slots[index]? = some other) (hmarked : slot.marked = true) :
    other.marked = true := by
  rcases reaches_of_marked heap roots hslot hmarked with ⟨old, hold, hbefore⟩ |
    ⟨target, hplace, hreach⟩
  · simp [hheap.unmarked _ _ hold] at hbefore
  · obtain ⟨found, hfound, hset⟩ := (hheap.isMarked_mark_iff others target).mpr (hreach.mono hsub)
    have hat := getElem?_of_slot? hfound
    rw [hplace, hother] at hat
    cases hat
    exact hset

/-- Marking depends only on which valid handles are roots. -/
theorem WellFormed.mark_congr {heap : Heap} (hheap : heap.WellFormed) {roots others : List Handle}
    (hroots : ∀ root, heap.isValid root = true → (root ∈ others ↔ root ∈ roots)) :
    heap.mark others = heap.mark roots := by
  have hslots : (heap.mark others).slots = (heap.mark roots).slots := by
    apply Array.ext_getElem?
    intro index
    -- but for their marks the slots are those of the heap, and the marks agree
    have hat := ((SameButMarks.mark heap others).slots index).trans
      ((SameButMarks.mark heap roots).slots index).symm
    cases hother : (heap.mark others).slots[index]? with
    | none =>
        rw [hother] at hat
        simpa using hat
    | some other =>
        rw [hother, Option.map_some] at hat
        obtain ⟨slot, hslot, hcleared⟩ := Option.map_eq_some_iff.mp hat.symm
        have hmark : other.marked = true ↔ slot.marked = true :=
          ⟨hheap.marked_of_subset (fun root hvalid => (hroots root hvalid).mp) hother hslot,
            hheap.marked_of_subset (fun root hvalid => (hroots root hvalid).mpr) hslot hother⟩
        rw [hslot, Option.some.injEq]
        cases other
        cases slot
        simp only [cleared, Slot.mk.injEq] at hcleared ⊢
        exact ⟨hcleared.1.symm, Bool.eq_iff_iff.mpr hmark, hcleared.2.2.symm⟩
  rw [mark_eq_slots heap others, mark_eq_slots heap roots, hslots]

theorem WellFormed.size_collect {heap : Heap} (hheap : heap.WellFormed) (roots : List Handle) :
    (heap.collect roots).size + heap.freed roots = heap.size := by
  obtain ⟨-, -, hlive⟩ := hheap.mark roots
  have hcount := countP_sweep (heap.mark roots)
  change (heap.mark roots).live - (heap.mark roots).garbage.length +
    (heap.mark roots).garbage.length = heap.live
  have hsame : (heap.mark roots).live = heap.live := by rw [mark_eq_slots]
  omega

@[simp] theorem clock_collect (heap : Heap) (roots : List Handle) :
    (heap.collect roots).clock = heap.clock := by
  change (heap.mark roots).clock = heap.clock
  rw [mark_eq_slots]

theorem WellFormed.get?_collect {heap : Heap} (hheap : heap.WellFormed) {roots : List Handle}
    {handle : Handle} {component : Component} :
    (heap.collect roots).get? handle = some component ↔
      heap.get? handle = some component ∧ heap.Reaches roots handle := by
  simp only [get?_eq_some_iff, hheap.slot?_collect_eq_some_iff]
  constructor
  · rintro ⟨slot, ⟨hslot, hborrowed | hreach⟩, hstate⟩
    · rw [hborrowed] at hstate
      cases hstate
    · exact ⟨⟨slot, hslot, hstate⟩, hreach⟩
  · rintro ⟨⟨slot, hslot, hstate⟩, hreach⟩
    exact ⟨slot, ⟨hslot, .inr hreach⟩, hstate⟩

theorem WellFormed.reaches_collect {heap : Heap} (hheap : heap.WellFormed) {roots : List Handle}
    {handle : Handle} (hreach : heap.Reaches roots handle) :
    (heap.collect roots).Reaches roots handle := by
  have hkept : ∀ target, heap.Reaches roots target →
      (heap.collect roots).isValid target = true := by
    intro target htarget
    obtain ⟨slot, hslot⟩ := isValid_iff.mp htarget.isValid
    exact isValid_iff.mpr
      ⟨slot, (hheap.slot?_collect_eq_some_iff roots).mpr ⟨hslot, .inr htarget⟩⟩
  induction hreach with
  | root hroot hvalid => exact .root hroot (hkept _ (.root hroot hvalid))
  | step hreach hget hother hvalid ih =>
      exact .step ih (hheap.get?_collect.mpr ⟨hget, hreach⟩) hother
        (hkept _ (.step hreach hget hother hvalid))

theorem WellFormed.freed_collect {heap : Heap} (hheap : heap.WellFormed) (roots : List Handle) :
    (heap.collect roots).freed roots = 0 := by
  have hafter := hheap.collect roots
  rw [freed, List.length_eq_zero_iff, List.eq_nil_iff_forall_not_mem]
  intro index hmem
  obtain ⟨slot, hslot, hgarbage⟩ := mem_garbage_iff.mp hmem
  -- the slot holds a component, whose handle was reached and is therefore marked again
  have hused := isFree_eq_false_of_isGarbage hgarbage
  simp only [Slot.isGarbage, Bool.and_eq_true, Bool.not_eq_true', Option.isSome_iff_exists]
    at hgarbage
  obtain ⟨hunmarked, component, hcomponent⟩ := hgarbage
  let handle : Handle := ⟨(heap.collect roots).run, index, slot.generation⟩
  have hfound : ((heap.collect roots).mark roots).slot? handle = some slot :=
    slot?_eq_some_iff.mpr ⟨(SameButMarks.mark _ _).run.symm, hslot, rfl, hused⟩
  have hget : ((heap.collect roots).mark roots).get? handle = some component :=
    get?_eq_some_iff.mpr ⟨slot, hfound, Slot.component?_eq_some_iff.mp hcomponent⟩
  rw [get?_mark, hheap.get?_collect] at hget
  obtain ⟨again, hagain, hmarked⟩ :=
    (hafter.isMarked_mark_iff roots handle).mpr (hheap.reaches_collect hget.2)
  rw [hfound] at hagain
  cases hagain
  simp [hunmarked] at hmarked

/-- The heaps that the operations of a heap build from an empty one. -/
inductive Built : Heap → Prop
  | empty (run : RunId) (clock : Nat) : Built { run := run, clock := clock }
  | alloc {heap : Heap} (hheap : Built heap) (component : Component) :
      Built (heap.alloc component).2
  | set {heap : Heap} (hheap : Built heap) (handle : Handle) (component : Component) :
      Built (heap.set handle component)
  | take {heap lent : Heap} (hheap : Built heap) {handle : Handle} {component : Component}
      (htake : heap.take? handle = some (component, lent)) : Built lent
  | restore {heap : Heap} (hheap : Built heap) (handle : Handle) (component : Component) :
      Built (heap.restore handle component)
  | free {heap : Heap} (hheap : Built heap) (handle : Handle) : Built (heap.free handle)
  | collect {heap : Heap} (hheap : Built heap) (roots : List Handle) :
      Built (heap.collect roots)
  | atTime {heap : Heap} (hheap : Built heap) (time : Nat) : Built (heap.atTime time)

theorem Built.wellFormed {heap : Heap} (hheap : heap.Built) : heap.WellFormed := by
  induction hheap with
  | empty run clock => exact wellFormed_empty run clock
  | alloc _ component ih => exact ih.alloc component
  | set _ handle component ih => exact ih.set handle component
  | @take heap lent _ handle component htake ih =>
      unfold take? at htake
      split at htake
      · cases htake
        exact ih.lend handle
      · cases htake
  | restore _ handle component ih => exact ih.restore handle component
  | free _ handle ih => exact ih.free handle
  | collect _ roots ih => exact ih.collect roots
  | atTime _ time ih => exact ih.atTime time

/-- Collecting from roots frees exactly the garbage. -/
structure CollectsGarbage (heap : Heap) (roots : List Handle) : Prop where
  /-- A handle stays valid if and only if its slot is borrowed or it can be reached. -/
  isValid_iff : ∀ handle, heap.isValid handle = true →
    ((heap.collect roots).isValid handle = true ↔
      (heap.slot? handle).map Slot.state = some .borrowed ∨ heap.Reaches roots handle)
  /-- A handle that is still valid was valid, and means the same generation, state and
  component. -/
  slot?_eq : ∀ handle, (heap.collect roots).isValid handle = true →
    (heap.collect roots).slot? handle = heap.slot? handle
  /-- The components that are freed are counted. -/
  size_add_freed : (heap.collect roots).size + heap.freed roots = heap.size
  /-- No mark is left. -/
  unmarked : ∀ slot ∈ (heap.collect roots).slots, slot.marked = false
  /-- Only the set of valid roots matters, not their order or how often they occur. -/
  roots_congr : ∀ others, (∀ handle, heap.isValid handle = true →
      (handle ∈ others ↔ handle ∈ roots)) →
    heap.collect others = heap.collect roots ∧ heap.freed others = heap.freed roots
  /-- A second collection from the same roots frees nothing. -/
  freed_again : (heap.collect roots).freed roots = 0

/-- Whatever operations built a heap, a collection frees exactly its garbage. -/
theorem collect_frees_exactly_garbage {heap : Heap} (hheap : heap.Built) (roots : List Handle) :
    heap.CollectsGarbage roots := by
  have hbooks := hheap.wellFormed
  constructor
  · intro handle hvalid
    obtain ⟨slot, hslot⟩ := isValid_iff.mp hvalid
    rw [isValid_iff, hslot, Option.map_some, Option.some.injEq]
    simp only [hbooks.slot?_collect_eq_some_iff, hslot, Option.some.injEq]
    constructor
    · rintro ⟨found, rfl, hreason⟩
      exact hreason
    · exact fun hreason => ⟨slot, rfl, hreason⟩
  · intro handle hvalid
    obtain ⟨slot, hslot⟩ := isValid_iff.mp hvalid
    rw [hslot, ((hbooks.slot?_collect_eq_some_iff roots).mp hslot).1]
  · exact hbooks.size_collect roots
  · intro slot hslot
    obtain ⟨index, hindex, rfl⟩ := Array.mem_iff_getElem.mp hslot
    exact (hbooks.collect roots).unmarked index _ (Array.getElem?_eq_getElem hindex)
  · intro others hroots
    have hmark := hbooks.mark_congr hroots
    exact ⟨by rw [Heap.collect, Heap.collect, hmark], by rw [freed, freed, hmark]⟩
  · exact hbooks.freed_collect roots

/-- Two arrays that hold each other, with a root given twice and one of another run. -/
theorem collect_frees_exactly_garbage_of_cycle :
    let first : Handle := ⟨⟨0⟩, 0, 0⟩
    let second : Handle := ⟨⟨0⟩, 1, 0⟩
    let heap := (((Heap.empty ⟨0⟩).alloc (.array #[.object second])).2.alloc
      (.array #[.object first, .object first])).2
    heap.Built ∧ heap.CollectsGarbage [first, ⟨⟨7⟩, 0, 0⟩, first] := by
  intro first second heap
  have hheap : heap.Built := .alloc (.alloc (.empty ⟨0⟩ 0) _) _
  exact ⟨hheap, collect_frees_exactly_garbage hheap _⟩

end BrightScript.Heap
