import BrightScript.Component.Basic

/-!
The heap of one run. It owns the components; handles to a slot that was freed or used again do not
resolve.
-/

namespace BrightScript

/-- What a slot of the heap holds. A component is borrowed while one of its methods runs. -/
inductive SlotState where
  | free
  | occupied (component : Component)
  | borrowed
  deriving Inhabited

/-- A slot of the heap. Its generation changes whenever it is freed or used again. -/
structure Slot where
  generation : Nat := 0
  marked : Bool := false
  state : SlotState := .free
  deriving Inhabited

def Slot.isFree (slot : Slot) : Bool :=
  match slot.state with
  | .free => true
  | _ => false

def Slot.component? (slot : Slot) : Option Component :=
  match slot.state with
  | .occupied component => some component
  | _ => none

/-- The components of one run. -/
structure Heap where
  run : RunId
  slots : Array Slot := #[]
  /-- The free slots, the one to be used next first. -/
  freeList : List Nat := []
  /-- How many slots are not free. -/
  live : Nat := 0
  /-- How many components were made since the last collection. -/
  allocated : Nat := 0
  /-- What the clock read last, in nanoseconds. -/
  clock : Nat := 0
  deriving Inhabited

namespace Heap

/-- The heap of a run without components. -/
def empty (run : RunId) : Heap := { run := run }

/-- Puts a component into a new slot, or into the free slot that comes next. -/
def alloc (heap : Heap) (component : Component) : Handle × Heap :=
  match heap.freeList with
  | index :: freeList =>
    let generation := (heap.slots[index]?.getD {}).generation + 1
    let slot : Slot := { generation := generation, state := .occupied component }
    (⟨heap.run, index, generation⟩,
      { heap with
        slots := heap.slots.setIfInBounds index slot
        freeList := freeList
        live := heap.live + 1
        allocated := heap.allocated + 1 })
  | [] =>
    (⟨heap.run, heap.slots.size, 0⟩,
      { heap with
        slots := heap.slots.push { state := .occupied component }
        live := heap.live + 1
        allocated := heap.allocated + 1 })

/-- The heap at another time. -/
def atTime (heap : Heap) (time : Nat) : Heap := { heap with clock := time }

/-- The slot that a handle means: it belongs to this run, its generation agrees, and it is not
free. -/
def slot? (heap : Heap) (handle : Handle) : Option Slot :=
  if handle.run = heap.run then
    (heap.slots[handle.index]?).filter fun slot =>
      slot.generation == handle.generation && !slot.isFree
  else none

/-- Whether a handle means a slot that is not free. -/
def isValid (heap : Heap) (handle : Handle) : Bool := (heap.slot? handle).isSome

def get? (heap : Heap) (handle : Handle) : Option Component :=
  (heap.slot? handle).bind Slot.component?

/-- Changes the state of a handle's slot, if the handle is valid. -/
def setState (heap : Heap) (handle : Handle) (state : SlotState) : Heap :=
  match heap.slot? handle with
  | some slot =>
    { heap with slots := heap.slots.setIfInBounds handle.index { slot with state := state } }
  | none => heap

/-- Replaces the component of a handle that has one. -/
def set (heap : Heap) (handle : Handle) (component : Component) : Heap :=
  match heap.get? handle with
  | some _ => heap.setState handle (.occupied component)
  | none => heap

/-- The heap while the component of a handle is out of it. -/
def lend (heap : Heap) (handle : Handle) : Heap := heap.setState handle .borrowed

/-- Takes a component out, so that it can change while the heap changes. -/
def take? (heap : Heap) (handle : Handle) : Option (Component × Heap) :=
  match heap.get? handle with
  | some component => some (component, heap.lend handle)
  | none => none

/-- Puts a component back where one was taken out. -/
def restore (heap : Heap) (handle : Handle) (component : Component) : Heap :=
  match (heap.slot? handle).map Slot.state with
  | some .borrowed => heap.setState handle (.occupied component)
  | _ => heap

def free (heap : Heap) (handle : Handle) : Heap :=
  match heap.slot? handle with
  | some slot =>
    { heap with
      slots := heap.slots.setIfInBounds handle.index { generation := slot.generation + 1 }
      freeList := handle.index :: heap.freeList
      live := heap.live - 1 }
  | none => heap

def size (heap : Heap) : Nat := heap.live

def isEmpty (heap : Heap) : Bool := heap.live == 0

/-- The handle of the slot at an index, if it holds a component. -/
def handleAt? (heap : Heap) (index : Nat) : Option Handle :=
  match heap.slots[index]? with
  | some slot => slot.component?.map fun _ => ⟨heap.run, index, slot.generation⟩
  | none => none

/-- The handles that resolve, in order of their slots. -/
def handles (heap : Heap) : List Handle :=
  (List.range heap.slots.size).filterMap heap.handleAt?

theorem mem_handles_of_get? {heap : Heap} {handle : Handle} {component : Component}
    (found : heap.get? handle = some component) : handle ∈ heap.handles := by
  unfold get? slot? at found
  split at found
  · rename_i sameRun
    cases atIndex : heap.slots[handle.index]? with
    | none => simp [atIndex] at found
    | some slot =>
      have bound : handle.index < heap.slots.size := (Array.getElem?_eq_some_iff.mp atIndex).1
      rw [atIndex] at found
      simp only [Option.filter_some] at found
      split at found
      · rename_i agrees
        simp only [Bool.and_eq_true, beq_iff_eq] at agrees
        refine List.mem_filterMap.mpr ⟨handle.index, List.mem_range.mpr bound, ?_⟩
        have shown : slot.component? = some component := by simpa using found
        simp only [handleAt?, atIndex, shown, Option.map_some, agrees.1, ← sameRun]
      · simp at found
  · simp at found

/-- How many handles resolve and are not among the given ones. -/
def unvisited (heap : Heap) (path : List Handle) : Nat :=
  heap.handles.countP fun handle => !path.contains handle

theorem countP_unvisited_lt {members path : List Handle} {handle : Handle}
    (member : handle ∈ members) (fresh : path.contains handle = false) :
    members.countP (fun h => !(handle :: path).contains h) <
      members.countP fun h => !path.contains h := by
  have smaller : ∀ l : List Handle, l.countP (fun h => !(handle :: path).contains h) ≤
      l.countP fun h => !path.contains h := fun l =>
    List.countP_mono_left fun h _ hidden => by
      simp only [List.contains_cons, Bool.not_eq_true', Bool.or_eq_false_iff] at hidden ⊢
      exact hidden.2
  induction members with
  | nil => simp at member
  | cons head rest ih =>
    have atRest := smaller rest
    by_cases same : head = handle
    · subst same
      simp only [List.countP_cons, List.contains_cons, BEq.rfl, Bool.true_or, Bool.not_true,
        Bool.false_eq_true, if_false, fresh, Bool.not_false, if_true] at atRest ⊢
      omega
    · have later : handle ∈ rest := (List.mem_cons.mp member).resolve_left (Ne.symm same)
      have step := ih later
      have differs : (head == handle) = false := by simpa using same
      simp only [List.countP_cons, List.contains_cons, differs, Bool.false_or] at step ⊢
      omega

theorem unvisited_cons_lt {heap : Heap} {path : List Handle} {handle : Handle}
    {component : Component} (found : heap.get? handle = some component)
    (fresh : path.contains handle = false) :
    heap.unvisited (handle :: path) < heap.unvisited path :=
  countP_unvisited_lt (mem_handles_of_get? found) fresh

theorem index_of_handleAt? {heap : Heap} {index : Nat} {handle : Handle}
    (found : heap.handleAt? index = some handle) : handle.index = index := by
  unfold handleAt? at found
  split at found
  · obtain ⟨component, -, rfl⟩ := Option.map_eq_some_iff.mp found
    rfl
  · cases found

theorem nodup_handles (heap : Heap) : heap.handles.Nodup := by
  unfold handles
  rw [List.Nodup, List.pairwise_filterMap]
  refine List.nodup_range.imp fun {left right} differ handle atLeft other atRight same => ?_
  exact differ ((index_of_handleAt? atLeft).symm.trans (same ▸ index_of_handleAt? atRight))

theorem countP_unvisited_erase_le {members : List Handle} (distinct : members.Nodup)
    (path : List Handle) (handle : Handle) :
    members.countP (fun h => !(path.erase handle).contains h) ≤
      members.countP (fun h => !path.contains h) + 1 := by
  have kept : ∀ h, h ≠ handle → (path.erase handle).contains h = path.contains h := by
    intro h other
    simp only [List.contains_eq_mem, List.mem_erase_of_ne other]
  induction members with
  | nil => exact Nat.zero_le _
  | cons head rest ih =>
    obtain ⟨absent, distinct⟩ := List.nodup_cons.mp distinct
    by_cases same : head = handle
    · subst same
      have atRest : rest.countP (fun h => !(path.erase head).contains h) =
          rest.countP fun h => !path.contains h :=
        List.countP_congr fun h member => by
          rw [kept h fun same => absent (same ▸ member)]
      simp only [List.countP_cons, atRest]
      grind
    · have step := ih distinct
      simp only [List.countP_cons, kept head same]
      omega

/-- Leaving a handle gives back no more than that handle. -/
theorem unvisited_erase_le (heap : Heap) (path : List Handle) (handle : Handle) :
    heap.unvisited (path.erase handle) ≤ heap.unvisited path + 1 :=
  countP_unvisited_erase_le heap.nodup_handles path handle

end Heap

end BrightScript
