import BrightScript.Proofs.Heap.Collection
import BrightScript.Proofs.Heap.Snapshot

/-!
The life of a handle. A ledger tells for every handle whether it was issued, which component it
holds, and whether it was released; an operation on one handle changes the entry of that handle
only. Whatever is done to a heap, it answers as its ledger says. Slots are used again, but every use
has a generation of its own, and a generation never comes back.
-/

namespace BrightScript

/-- What is done to a heap. -/
inductive Operation where
  | alloc (component : Component)
  | update (handle : Handle) (component : Component)
  | take (handle : Handle)
  | restore (handle : Handle) (component : Component)
  | free (handle : Handle)
  | collect (roots : List Handle)
  /-- The clock goes on. -/
  | elapse (time : Nat)

/-- What has become of a handle. -/
inductive Standing where
  | unissued
  | holding (component : Component)
  | lent
  | released

namespace Standing

/-- The component that a handle resolves to. -/
def component? : Standing → Option Component
  | .holding component => some component
  | .unissued | .lent | .released => none

/-- Whether a handle is in use. -/
def isLive : Standing → Bool
  | .holding _ | .lent => true
  | .unissued | .released => false

/-- The standing when a component is stored through the handle. -/
def stored (component : Component) : Standing → Standing
  | .holding _ => .holding component
  | standing => standing

/-- The standing when the component is taken out. -/
def taken : Standing → Standing
  | .holding _ => .lent
  | standing => standing

/-- The standing when a component is put back. -/
def restored (component : Component) : Standing → Standing
  | .lent => .holding component
  | standing => standing

/-- The standing when the handle is freed. -/
def freed : Standing → Standing
  | .holding _ | .lent => .released
  | standing => standing

/-- The standing when the handle is not reached by a collection. -/
def unreached : Standing → Standing
  | .holding _ => .released
  | standing => standing

/-- The state of the slot of a handle. -/
def state? : Standing → Option SlotState
  | .holding component => some (.occupied component)
  | .lent => some .borrowed
  | .unissued | .released => none

end Standing

/-- What has become of every handle. -/
abbrev Ledger := Handle → Standing

namespace Ledger

/-- The handles that can be reached from roots by following the references of components. -/
inductive Reaches (ledger : Ledger) (roots : List Handle) : Handle → Prop
  | root {handle : Handle} (hroot : handle ∈ roots) (hlive : (ledger handle).isLive = true) :
      Reaches ledger roots handle
  | step {handle other : Handle} {component : Component} (hreach : Reaches ledger roots handle)
      (hholds : ledger handle = .holding component) (hother : other ∈ component.references)
      (hlive : (ledger other).isLive = true) : Reaches ledger roots other

open Classical in
noncomputable def collect (ledger : Ledger) (roots : List Handle) : Ledger := fun handle =>
  if ledger.Reaches roots handle then ledger handle else (ledger handle).unreached

end Ledger

/-- Whether an operation is on a handle, or is a collection that does not reach it. -/
def Operation.Concerns (ledger : Ledger) (handle : Handle) : Operation → Prop
  | .alloc _ | .elapse _ => False
  | .update other _ | .take other | .restore other _ | .free other => other = handle
  | .collect roots => ¬ ledger.Reaches roots handle

/-- A heap with its ledger, and the handles that it issued, the last one first. -/
structure Account where
  heap : Heap
  issued : List Handle
  ledger : Ledger

namespace Account

/-- A heap without components, with nothing in its ledger. -/
def opened (run : RunId) (clock : Nat) : Account :=
  ⟨{ run := run, clock := clock }, [], fun _ => .unissued⟩

/-- Changes what the ledger says of one handle. -/
def enter (account : Account) (heap : Heap) (handle : Handle) (revise : Standing → Standing) :
    Account :=
  { account with
    heap := heap
    ledger := Function.update account.ledger handle (revise (account.ledger handle)) }

/-- Does one operation, and enters it into the ledger. -/
noncomputable def step (account : Account) : Operation → Account
  | .alloc component =>
    let allocated := account.heap.alloc component
    { account.enter allocated.2 allocated.1 fun _ => .holding component with
      issued := allocated.1 :: account.issued }
  | .update handle component =>
    account.enter (account.heap.set handle component) handle (.stored component)
  | .take handle =>
    account.enter (((account.heap.take? handle).map Prod.snd).getD account.heap) handle .taken
  | .restore handle component =>
    account.enter (account.heap.restore handle component) handle (.restored component)
  | .free handle => account.enter (account.heap.free handle) handle .freed
  | .collect roots =>
    { account with
      heap := account.heap.collect roots
      ledger := account.ledger.collect roots }
  | .elapse time => { account with heap := account.heap.atTime time }

@[simp] theorem enter_heap (account : Account) (heap : Heap) (handle : Handle)
    (revise : Standing → Standing) : (account.enter heap handle revise).heap = heap := rfl

@[simp] theorem enter_issued (account : Account) (heap : Heap) (handle : Handle)
    (revise : Standing → Standing) :
    (account.enter heap handle revise).issued = account.issued := rfl

@[simp] theorem enter_ledger (account : Account) (heap : Heap) (handle : Handle)
    (revise : Standing → Standing) : (account.enter heap handle revise).ledger =
      Function.update account.ledger handle (revise (account.ledger handle)) := rfl

theorem step_alloc_heap (account : Account) (component : Component) :
    (account.step (.alloc component)).heap = (account.heap.alloc component).2 := rfl

theorem step_alloc_issued (account : Account) (component : Component) :
    (account.step (.alloc component)).issued =
      (account.heap.alloc component).1 :: account.issued := rfl

theorem step_alloc_ledger (account : Account) (component : Component) :
    (account.step (.alloc component)).ledger =
      Function.update account.ledger (account.heap.alloc component).1 (.holding component) := rfl

/-- Does operations one after the other. -/
noncomputable def run (account : Account) (operations : List Operation) : Account :=
  operations.foldl step account

end Account

namespace Heap

/-- Slots only grow older: none goes away, no generation gets smaller, and a slot becomes free only
with a new generation. -/
structure Ages (heap later : Heap) : Prop where
  run : later.run = heap.run
  slots : ∀ {index : Nat} {slot : Slot}, heap.slots[index]? = some slot →
    ∃ next : Slot, later.slots[index]? = some next ∧ slot.generation ≤ next.generation ∧
      (next.isFree = true → slot.isFree = false → slot.generation < next.generation)

/-- A handle was issued by now: its slot has come to its generation, and is past it when free. -/
structure Passed (heap : Heap) (handle : Handle) : Prop where
  run : handle.run = heap.run
  slot : ∃ slot : Slot, heap.slots[handle.index]? = some slot ∧
    handle.generation ≤ slot.generation ∧
      (slot.isFree = true → handle.generation < slot.generation)

theorem Passed.ages {heap later : Heap} {handle : Handle} (hpassed : heap.Passed handle)
    (hages : heap.Ages later) : later.Passed handle := by
  obtain ⟨slot, hslot, hle, hless⟩ := hpassed.slot
  obtain ⟨next, hnext, hgrows, hfreed⟩ := hages.slots hslot
  refine ⟨hpassed.run.trans hages.run.symm, next, hnext, hle.trans hgrows, fun hfree => ?_⟩
  cases hslotFree : slot.isFree with
  | true => exact lt_of_lt_of_le (hless hslotFree) hgrows
  | false => exact lt_of_le_of_lt hle (hfreed hfree hslotFree)

theorem passed_of_slot? {heap : Heap} {handle : Handle} {slot : Slot}
    (hslot : heap.slot? handle = some slot) : heap.Passed handle := by
  obtain ⟨hrun, hindex, hgeneration, hfree⟩ := slot?_eq_some_iff.mp hslot
  refine ⟨hrun, slot, hindex, hgeneration.ge, fun hfreed => ?_⟩
  rw [hfree] at hfreed
  cases hfreed

namespace Ages

theorem refl (heap : Heap) : heap.Ages heap := by
  refine ⟨rfl, fun {index slot} hslot => ⟨slot, hslot, le_rfl, fun hfree hused => ?_⟩⟩
  rw [hfree] at hused
  cases hused

theorem trans {first second third : Heap} (h₁ : first.Ages second) (h₂ : second.Ages third) :
    first.Ages third := by
  refine ⟨h₂.run.trans h₁.run, fun {index slot} hslot => ?_⟩
  obtain ⟨next, hnext, hgrows, hfreed⟩ := h₁.slots hslot
  obtain ⟨last, hlast, hgrows', hfreed'⟩ := h₂.slots hnext
  refine ⟨last, hlast, hgrows.trans hgrows', fun hfree hused => ?_⟩
  cases hnextFree : next.isFree with
  | true => exact lt_of_lt_of_le (hfreed hnextFree hused) hgrows'
  | false => exact lt_of_le_of_lt hgrows (hfreed' hfree hnextFree)

theorem atTime (heap : Heap) (time : Nat) : heap.Ages (heap.atTime time) :=
  ⟨rfl, (refl heap).slots⟩

theorem write {heap : Heap} {index : Nat} {old : Slot} (hold : heap.slots[index]? = some old)
    (new : Slot) (hle : old.generation ≤ new.generation)
    (hfreed : new.isFree = true → old.isFree = false → old.generation < new.generation) :
    heap.Ages { heap with slots := heap.slots.setIfInBounds index new } := by
  refine ⟨rfl, fun {place slot} hslot => ?_⟩
  have hbound : index < heap.slots.size := (Array.getElem?_eq_some_iff.mp hold).1
  by_cases hplace : index = place
  · subst hplace
    obtain rfl : old = slot := Option.some.inj (hold.symm.trans hslot)
    exact ⟨new, by simp [hbound], hle, hfreed⟩
  · rw [Array.getElem?_setIfInBounds_ne hplace]
    exact (refl heap).slots hslot

theorem setState (heap : Heap) (handle : Handle) {state : SlotState} (hstate : state ≠ .free) :
    heap.Ages (heap.setState handle state) := by
  unfold Heap.setState
  split
  · next slot hslot =>
      refine write (getElem?_of_slot? hslot) _ le_rfl fun hfree _ => ?_
      rw [Slot.isFree_eq_false_iff.mpr hstate] at hfree
      cases hfree
  · exact refl heap

theorem free (heap : Heap) (handle : Handle) : heap.Ages (heap.free handle) := by
  unfold Heap.free
  split
  · next slot hslot =>
      have hwrite := write (getElem?_of_slot? hslot) { generation := slot.generation + 1 }
        (Nat.le_succ _) fun _ _ => Nat.lt_succ_self _
      exact ⟨rfl, hwrite.slots⟩
  · exact refl heap

theorem alloc {heap : Heap} (hheap : heap.WellFormed) (component : Component) :
    heap.Ages (heap.alloc component).2 := by
  unfold Heap.alloc
  split
  · next index rest hlist =>
      obtain ⟨old, hold, -⟩ := hheap.head_freeList hlist
      have hwrite := write hold ⟨old.generation + 1, false, .occupied component⟩
        (Nat.le_succ _) fun _ _ => Nat.lt_succ_self _
      refine ⟨rfl, ?_⟩
      rw [hold]
      exact hwrite.slots
  · refine ⟨rfl, fun {index slot} hslot => ?_⟩
    have hbound : index < heap.slots.size := (Array.getElem?_eq_some_iff.mp hslot).1
    rw [Array.getElem?_push, if_neg hbound.ne]
    exact (refl heap).slots hslot

theorem collect (heap : Heap) (roots : List Handle) : heap.Ages (heap.collect roots) := by
  have hsame := SameButMarks.mark heap roots
  refine ⟨hsame.run, fun {index slot} hslot => ?_⟩
  have hat := hsame.slots index
  rw [hslot, Option.map_some] at hat
  obtain ⟨marked, hmarked, hcleared⟩ := Option.map_eq_some_iff.mp hat
  have hgeneration : marked.generation = slot.generation := (congrArg Slot.generation hcleared :)
  have hfree : marked.isFree = slot.isFree := (congrArg Slot.isFree hcleared :)
  refine ⟨marked.swept, by rw [Heap.collect, slots_sweep, hmarked, Option.map_some], ?_⟩
  unfold Slot.swept
  split
  · exact ⟨hgeneration.ge.trans (Nat.le_succ _), fun _ _ =>
      lt_of_le_of_lt hgeneration.ge (Nat.lt_succ_self _)⟩
  · refine ⟨hgeneration.ge, fun hfreed hused => ?_⟩
    rw [Slot.isFree_marked, hfree, hused] at hfreed
    cases hfreed

end Ages

/-- A handle that was issued and is still in use has been in use meanwhile. -/
theorem Passed.isValid {heap later : Heap} {handle : Handle} (hpassed : heap.Passed handle)
    (hages : heap.Ages later) (hvalid : later.isValid handle = true) :
    heap.isValid handle = true := by
  obtain ⟨last, hlast⟩ := isValid_iff.mp hvalid
  obtain ⟨-, hindex, hgeneration, hused⟩ := slot?_eq_some_iff.mp hlast
  obtain ⟨slot, hslot, hle, hless⟩ := hpassed.slot
  obtain ⟨next, hnext, hgrows, -⟩ := hages.slots hslot
  obtain rfl : last = next := Option.some.inj (hindex.symm.trans hnext)
  have hsame : slot.generation = handle.generation := by omega
  refine isValid_iff.mpr ⟨slot, slot?_eq_some_iff.mpr ⟨hpassed.run, hslot, hsame, ?_⟩⟩
  rw [← Bool.not_eq_true]
  exact fun hfree => (hless hfree).ne hsame.symm

/-- The handle of a new component was never issued before. -/
theorem not_passed_alloc (heap : Heap) (component : Component) :
    ¬ heap.Passed (heap.alloc component).1 := by
  rintro ⟨-, slot, hslot, hle, -⟩
  unfold Heap.alloc at hslot hle
  split at hslot
  · next index rest hlist =>
      simp only [hlist, hslot, Option.getD_some] at hle
      omega
  · simp at hslot

/-- The heap is the same whether it is given a handle or not, and shows the handle as released. -/
structure Ignores (heap : Heap) (handle : Handle) : Prop where
  isValid : heap.isValid handle = false
  get? : heap.get? handle = none
  set : ∀ component, heap.set handle component = heap
  take? : heap.take? handle = none
  restore : ∀ component, heap.restore handle component = heap
  free : heap.free handle = heap
  collect : ∀ before after,
    heap.collect (before ++ handle :: after) = heap.collect (before ++ after)
  freed : ∀ before after, heap.freed (before ++ handle :: after) = heap.freed (before ++ after)
  snapshot : heap.snapshot (.object handle) = .text "<released component>"

theorem WellFormed.ignores {heap : Heap} (hheap : heap.WellFormed) {handle : Handle}
    (hinvalid : heap.isValid handle = false) : heap.Ignores handle := by
  have hslot : heap.slot? handle = none := by
    rwa [Heap.isValid, Option.isSome_eq_false_iff, Option.isNone_iff_eq_none] at hinvalid
  have hget := get?_eq_none_of_not_isValid hinvalid
  have hmark : ∀ before after, heap.mark (before ++ handle :: after) =
      heap.mark (before ++ after) := by
    intro before after
    refine hheap.mark_congr fun root hvalid => ?_
    have hdiffers : root ≠ handle := by
      rintro rfl
      rw [hinvalid] at hvalid
      cases hvalid
    simp [hdiffers]
  constructor
  · exact hinvalid
  · exact hget
  · intro component
    rw [Heap.set, hget]
  · rw [Heap.take?, hget]
  · intro component
    rw [Heap.restore, hslot, Option.map_none]
  · rw [Heap.free, hslot]
  · intro before after
    rw [Heap.collect, Heap.collect, hmark]
  · intro before after
    rw [Heap.freed, Heap.freed, hmark]
  · exact snapshot_released hget

end Heap

namespace Account

/-- The heap of an account is in order, belongs to a run and agrees with its ledger. -/
structure Sound (account : Account) (owner : RunId) : Prop where
  run_eq : account.heap.run = owner
  wellFormed : account.heap.WellFormed
  nodup : account.issued.Nodup
  passed : ∀ handle ∈ account.issued, account.heap.Passed handle
  mem_issued : ∀ handle, handle ∈ account.issued ↔ account.ledger handle ≠ .unissued
  state : ∀ handle, (account.heap.slot? handle).map Slot.state = (account.ledger handle).state?

namespace Sound

variable {account : Account} {owner : RunId}

theorem get? (hsound : account.Sound owner) (handle : Handle) :
    account.heap.get? handle = (account.ledger handle).component? := by
  have hstate := hsound.state handle
  unfold Heap.get? Slot.component?
  cases hslot : account.heap.slot? handle with
  | none =>
      rw [hslot] at hstate
      cases hledger : account.ledger handle <;> simp_all [Standing.state?, Standing.component?]
  | some slot =>
      rw [hslot, Option.map_some] at hstate
      cases hledger : account.ledger handle <;> simp_all [Standing.state?, Standing.component?]

theorem isValid (hsound : account.Sound owner) (handle : Handle) :
    account.heap.isValid handle = (account.ledger handle).isLive := by
  have hstate := congrArg Option.isSome (hsound.state handle)
  rw [Option.isSome_map] at hstate
  rw [Heap.isValid, hstate]
  cases account.ledger handle <;> rfl

theorem reaches_iff (hsound : account.Sound owner) {roots : List Handle} {handle : Handle} :
    account.heap.Reaches roots handle ↔ account.ledger.Reaches roots handle := by
  constructor
  · intro hreach
    induction hreach with
    | root hroot hvalid => exact .root hroot (hsound.isValid _ ▸ hvalid)
    | @step handle other component _ hget hother hvalid ih =>
        refine .step ih ?_ hother (hsound.isValid _ ▸ hvalid)
        rw [hsound.get?] at hget
        cases hledger : account.ledger handle <;> simp_all [Standing.component?]
  · intro hreach
    induction hreach with
    | root hroot hlive => exact .root hroot ((hsound.isValid _).trans hlive)
    | step _ hholds hother hlive ih =>
        refine .step ih ?_ hother ((hsound.isValid _).trans hlive)
        rw [hsound.get?, hholds]
        rfl

/-- An operation on one handle keeps the account in order if it changes the slot of that handle as
the ledger says, and no other. -/
theorem enter (hsound : account.Sound owner) {later : Heap} {handle : Handle}
    {revise : Standing → Standing} (hbooks : later.WellFormed) (hages : account.heap.Ages later)
    (hissued : ∀ standing, revise standing = .unissued ↔ standing = .unissued)
    (hself : (later.slot? handle).map Slot.state = (revise (account.ledger handle)).state?)
    (hother : ∀ other, handle ≠ other → later.slot? other = account.heap.slot? other) :
    (account.enter later handle revise).Sound owner := by
  constructor
  · exact hages.run.trans hsound.run_eq
  · exact hbooks
  · exact hsound.nodup
  · exact fun other hmem => (hsound.passed other hmem).ages hages
  · intro other
    rw [enter_ledger, enter_issued, hsound.mem_issued]
    by_cases hsame : other = handle
    · rw [hsame, Function.update_self, Ne, Ne, hissued]
    · rw [Function.update_of_ne hsame]
  · intro other
    rw [enter_ledger, enter_heap]
    by_cases hsame : other = handle
    · rw [hsame, Function.update_self, hself]
    · rw [Function.update_of_ne hsame, hother other (Ne.symm hsame), hsound.state]

theorem setState (hsound : account.Sound owner) {handle : Handle} {state : SlotState}
    {revise : Standing → Standing} (hstate : state ≠ .free)
    (hlive : (account.ledger handle).isLive = true)
    (hissued : ∀ standing, revise standing = .unissued ↔ standing = .unissued)
    (hchange : (revise (account.ledger handle)).state? = some state) :
    (account.enter (account.heap.setState handle state) handle revise).Sound owner := by
  have hwellFormed := hsound.wellFormed.setState handle hstate
  refine hsound.enter hwellFormed (.setState _ _ hstate) hissued ?_ ?_
  · rw [← hsound.isValid, Heap.isValid_iff] at hlive
    obtain ⟨slot, hslot⟩ := hlive
    rw [Heap.slot?_setState hstate, if_pos rfl, hslot, hchange]
    rfl
  · intro other hdiffers
    rw [Heap.slot?_setState hstate, if_neg hdiffers]

theorem unchanged (hsound : account.Sound owner) {handle : Handle} {revise : Standing → Standing}
    (hissued : ∀ standing, revise standing = .unissued ↔ standing = .unissued)
    (hchange : revise (account.ledger handle) = account.ledger handle) :
    (account.enter account.heap handle revise).Sound owner :=
  hsound.enter hsound.wellFormed (.refl _) hissued (by rw [hchange, hsound.state]) fun _ _ => rfl

theorem update (hsound : account.Sound owner) (handle : Handle) (component : Component) :
    (account.step (.update handle component)).Sound owner := by
  have hissued : ∀ standing : Standing,
      standing.stored component = .unissued ↔ standing = .unissued := by
    rintro (_ | _ | _ | _) <;> simp [Standing.stored]
  have hget := hsound.get? handle
  rw [step, Heap.set]
  cases hledger : account.ledger handle with
  | holding old =>
      rw [hget, hledger]
      refine hsound.setState (by simp) ?_ hissued ?_
      · rw [hledger]
        rfl
      · rw [hledger]
        rfl
  | unissued | lent | released =>
      rw [hget, hledger]
      exact hsound.unchanged hissued (by rw [hledger]; rfl)

theorem take (hsound : account.Sound owner) (handle : Handle) :
    (account.step (.take handle)).Sound owner := by
  have hissued : ∀ standing : Standing, standing.taken = .unissued ↔ standing = .unissued := by
    rintro (_ | _ | _ | _) <;> simp [Standing.taken]
  have hget := hsound.get? handle
  rw [step, Heap.take?]
  cases hledger : account.ledger handle with
  | holding old =>
      rw [hget, hledger]
      refine hsound.setState (by simp) ?_ hissued ?_
      · rw [hledger]
        rfl
      · rw [hledger]
        rfl
  | unissued | lent | released =>
      rw [hget, hledger]
      exact hsound.unchanged hissued (by rw [hledger]; rfl)

theorem restore (hsound : account.Sound owner) (handle : Handle) (component : Component) :
    (account.step (.restore handle component)).Sound owner := by
  have hissued : ∀ standing : Standing,
      standing.restored component = .unissued ↔ standing = .unissued := by
    rintro (_ | _ | _ | _) <;> simp [Standing.restored]
  have hstate := hsound.state handle
  rw [step, Heap.restore]
  cases hledger : account.ledger handle with
  | lent =>
      rw [hstate, hledger]
      refine hsound.setState (by simp) ?_ hissued ?_
      · rw [hledger]
        rfl
      · rw [hledger]
        rfl
  | unissued | holding | released =>
      rw [hstate, hledger]
      exact hsound.unchanged hissued (by rw [hledger]; rfl)

theorem free (hsound : account.Sound owner) (handle : Handle) :
    (account.step (.free handle)).Sound owner := by
  refine hsound.enter (hsound.wellFormed.free handle) (.free _ _) ?_ ?_ ?_
  · rintro (_ | _ | _ | _) <;> simp [Standing.freed]
  · rw [Heap.slot?_free, if_pos rfl]
    cases account.ledger handle <;> rfl
  · intro other hdiffers
    rw [Heap.slot?_free, if_neg hdiffers]

theorem ne_alloc (hsound : account.Sound owner) {handle : Handle}
    (hissued : handle ∈ account.issued) (component : Component) :
    handle ≠ (account.heap.alloc component).1 := by
  rintro rfl
  exact Heap.not_passed_alloc account.heap component (hsound.passed _ hissued)

theorem alloc (hsound : account.Sound owner) (component : Component) :
    (account.step (.alloc component)).Sound owner := by
  obtain ⟨slot, hstate, -, -, hslots⟩ := hsound.wellFormed.slot?_alloc component
  have hages := Heap.Ages.alloc hsound.wellFormed component
  have hfresh : (account.heap.alloc component).1 ∉ account.issued := fun hmem =>
    hsound.ne_alloc hmem component rfl
  constructor
  · exact hages.run.trans hsound.run_eq
  · exact hsound.wellFormed.alloc component
  · exact List.nodup_cons.mpr ⟨hfresh, hsound.nodup⟩
  · refine List.forall_mem_cons.mpr ⟨?_, fun handle hmem => (hsound.passed handle hmem).ages hages⟩
    exact Heap.passed_of_slot? ((hslots _).trans (if_pos rfl))
  · intro handle
    rw [step_alloc_ledger, step_alloc_issued]
    by_cases hsame : handle = (account.heap.alloc component).1
    · simp [hsame]
    · rw [Function.update_of_ne hsame, List.mem_cons, hsound.mem_issued, or_iff_right hsame]
  · intro handle
    rw [step_alloc_ledger, step_alloc_heap, hslots]
    by_cases hsame : handle = (account.heap.alloc component).1
    · rw [if_pos hsame.symm, hsame, Function.update_self, Option.map_some, hstate]
      rfl
    · rw [if_neg (Ne.symm hsame), Function.update_of_ne hsame, hsound.state]

theorem state_collect (hsound : account.Sound owner) (roots : List Handle) (handle : Handle) :
    ((account.heap.collect roots).slot? handle).map Slot.state =
      (account.ledger.collect roots handle).state? := by
  have hstate := hsound.state handle
  have hkept := @Heap.WellFormed.slot?_collect_eq_some_iff _ hsound.wellFormed roots handle
  rw [Ledger.collect]
  split
  · next hreach =>
      rw [← hstate]
      congr 1
      ext slot
      rw [hkept]
      exact and_iff_left (.inr (hsound.reaches_iff.mpr hreach))
  · next hreach =>
      have hborrowed : ∀ slot, (account.heap.collect roots).slot? handle = some slot ↔
          account.heap.slot? handle = some slot ∧ slot.state = .borrowed := by
        intro slot
        rw [hkept, or_iff_left (fun hreached => hreach (hsound.reaches_iff.mp hreached))]
      cases hslot : (account.heap.collect roots).slot? handle with
      | some slot =>
          obtain ⟨hbefore, hlent⟩ := (hborrowed slot).mp hslot
          rw [hbefore, Option.map_some, hlent] at hstate
          rw [Option.map_some, hlent]
          cases hledger : account.ledger handle <;>
            simp_all [Standing.state?, Standing.unreached]
      | none =>
          cases hledger : account.ledger handle with
          | lent =>
              rw [hledger] at hstate
              obtain ⟨slot, hbefore, hlent⟩ := Option.map_eq_some_iff.mp hstate
              rw [(hborrowed slot).mpr ⟨hbefore, hlent⟩] at hslot
              cases hslot
          | unissued | holding | released => rfl

theorem collect (hsound : account.Sound owner) (roots : List Handle) :
    (account.step (.collect roots)).Sound owner := by
  constructor
  · exact (Heap.Ages.collect _ roots).run.trans hsound.run_eq
  · exact hsound.wellFormed.collect roots
  · exact hsound.nodup
  · exact fun handle hmem => (hsound.passed handle hmem).ages (.collect _ roots)
  · intro handle
    change handle ∈ account.issued ↔ account.ledger.collect roots handle ≠ .unissued
    rw [hsound.mem_issued, Ledger.collect]
    split
    · rfl
    · cases account.ledger handle <;> simp [Standing.unreached]
  · exact hsound.state_collect roots

theorem elapse (hsound : account.Sound owner) (time : Nat) :
    (account.step (.elapse time)).Sound owner :=
  { hsound with
    wellFormed := hsound.wellFormed.atTime time
    passed := fun handle hmem => (hsound.passed handle hmem).ages (.atTime _ time) }

theorem step (hsound : account.Sound owner) (operation : Operation) :
    (account.step operation).Sound owner := by
  cases operation with
  | alloc component => exact hsound.alloc component
  | update handle component => exact hsound.update handle component
  | take handle => exact hsound.take handle
  | restore handle component => exact hsound.restore handle component
  | free handle => exact hsound.free handle
  | collect roots => exact hsound.collect roots
  | elapse time => exact hsound.elapse time

theorem run (hsound : account.Sound owner) (operations : List Operation) :
    (account.run operations).Sound owner := by
  induction operations generalizing account with
  | nil => exact hsound
  | cons operation operations ih => exact ih (hsound.step operation)

theorem ledger_step (hsound : account.Sound owner) {handle : Handle}
    (hissued : handle ∈ account.issued) {operation : Operation}
    (hother : ¬ operation.Concerns account.ledger handle) :
    (account.step operation).ledger handle = account.ledger handle := by
  cases operation with
  | alloc component => exact Function.update_of_ne (hsound.ne_alloc hissued component) _ _
  | update | take | restore | free => exact Function.update_of_ne (Ne.symm hother) _ _
  | collect roots => exact if_pos (not_not.mp hother)
  | elapse => rfl

/-- What is released stays released: its handle is not issued again. -/
theorem released_step (hsound : account.Sound owner) {handle : Handle}
    (hreleased : account.ledger handle = .released) (operation : Operation) :
    (account.step operation).ledger handle = .released := by
  -- every entry of the ledger leaves `released` as it is
  have hupdate : ∀ (other : Handle) (revise : Standing → Standing), revise .released = .released →
      Function.update account.ledger other (revise (account.ledger other)) handle = .released := by
    intro other revise hrevise
    by_cases hsame : handle = other
    · rw [← hsame, Function.update_self, hreleased, hrevise]
    · rw [Function.update_of_ne hsame, hreleased]
  cases operation with
  | alloc component =>
      have hissued : handle ∈ account.issued := by
        rw [hsound.mem_issued, hreleased]
        rintro ⟨⟩
      exact (Function.update_of_ne (hsound.ne_alloc hissued component) _ _).trans hreleased
  | update other component => exact hupdate other _ rfl
  | take other => exact hupdate other _ rfl
  | restore other component => exact hupdate other _ rfl
  | free other => exact hupdate other _ rfl
  | collect roots =>
      change account.ledger.collect roots handle = .released
      rw [Ledger.collect, hreleased]
      exact ite_self _
  | elapse time => exact hreleased

theorem released_run (hsound : account.Sound owner) {handle : Handle}
    (hreleased : account.ledger handle = .released) (operations : List Operation) :
    (account.run operations).ledger handle = .released := by
  induction operations generalizing account with
  | nil => exact hreleased
  | cons operation operations ih =>
      exact ih (hsound.step operation) (hsound.released_step hreleased operation)

theorem ignores (hsound : account.Sound owner) {handle : Handle}
    (hdead : (account.ledger handle).isLive = false) : account.heap.Ignores handle :=
  hsound.wellFormed.ignores ((hsound.isValid handle).trans hdead)

end Sound

theorem sound_opened (run : RunId) (clock : Nat) : (opened run clock).Sound run := by
  constructor
  · rfl
  · exact Heap.wellFormed_empty run clock
  · exact List.nodup_nil
  · exact List.forall_mem_nil _
  · intro handle
    simp [opened]
  · intro handle
    simp [opened, Heap.slot?, Standing.state?]

/-- A handle denotes one component for life and nothing afterwards. All handles that were issued
differ; each resolves to what its ledger says was stored through it, whatever is done to others; and
what was released, or belongs to another run, is never found again. -/
theorem handle_denotes_one_component (run : RunId) (clock : Nat) (first later : List Operation) :
    let before := (opened run clock).run first
    let after := before.run later
    after.issued.Nodup ∧
    (∀ handle, handle ∈ after.issued ↔ after.ledger handle ≠ .unissued) ∧
    (∀ handle, after.heap.get? handle = (after.ledger handle).component? ∧
      after.heap.isValid handle = (after.ledger handle).isLive) ∧
    (∀ handle ∈ after.issued, ∀ operation : Operation, ¬ operation.Concerns after.ledger handle →
      (after.step operation).ledger handle = after.ledger handle) ∧
    (∀ handle, before.ledger handle = .released →
      after.ledger handle = .released ∧ after.heap.Ignores handle) ∧
    ∀ handle, handle.run ≠ run → handle ∉ after.issued ∧ after.heap.Ignores handle := by
  intro before after
  have hbefore : before.Sound run := (sound_opened run clock).run first
  have hafter : after.Sound run := hbefore.run later
  refine ⟨hafter.nodup, hafter.mem_issued,
    fun handle => ⟨hafter.get? handle, hafter.isValid handle⟩,
    fun handle hissued operation => hafter.ledger_step hissued, ?_, ?_⟩
  · intro handle hreleased
    have hstill := hbefore.released_run hreleased later
    exact ⟨hstill, hafter.ignores (by rw [hstill]; rfl)⟩
  · intro handle hforeign
    have hnever : handle ∉ after.issued := fun hmem =>
      hforeign ((hafter.passed handle hmem).run.trans hafter.run_eq)
    refine ⟨hnever, hafter.ignores ?_⟩
    rw [hafter.mem_issued, not_not] at hnever
    rw [hnever]
    rfl

/-- A slot that is used again has a new handle, and the old one stays released. -/
theorem handle_denotes_one_component_reused :
    let old : Handle := ⟨⟨0⟩, 0, 0⟩
    let new : Handle := ⟨⟨0⟩, 0, 2⟩
    let before := (opened ⟨0⟩ 0).run [.alloc (.array #[]), .free old]
    let after := before.run [.alloc (.list []), .take new, .free new, .restore new (.list [])]
    before.ledger old = .released ∧ after.issued = [new, old] ∧ after.heap.Ignores old ∧
      after.heap.Ignores ⟨⟨1⟩, 0, 2⟩ := by
  intro old new before after
  have hreleased : before.ledger old = .released := by
    simp [before, run, step, opened, Heap.alloc, old, Standing.freed]
  obtain ⟨-, -, -, -, hdead, hforeign⟩ := handle_denotes_one_component ⟨0⟩ 0
    [.alloc (.array #[]), .free old] [.alloc (.list []), .take new, .free new,
      .restore new (.list [])]
  refine ⟨hreleased, rfl, (hdead old hreleased).2, (hforeign _ ?_).2⟩
  rintro ⟨⟩

end Account

end BrightScript
