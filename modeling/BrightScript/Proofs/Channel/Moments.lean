import BrightScript.Proofs.Channel.Launch
import BrightScript.Proofs.Evaluator.Steps
import BrightScript.Proofs.Method.Record

namespace BrightScript

/-- What a step of a program may do to the heap. -/
inductive Heap.Step (registry : Registry) (heap : Heap) : Heap → Prop
  | create {clock : Nat} {catalog : NodeCatalog} {kind : String} {arguments : List Value}
      {creation : Creation}
      (hcreate : registry.create clock catalog kind arguments = .ok creation) :
      Step registry heap (heap.alloc creation.component).2
  | literal {component : Component} (hleaf : component.links? = none) :
      Step registry heap (heap.alloc component).2
  | callMethod (catalog : NodeCatalog) (this : Handle) (method : String) (arguments : List Value) :
      Step registry heap (heap.callMethod catalog this method arguments).heap
  | setMember {changed : Heap} {this : Handle} {name : String} {value : Value}
      (hset : heap.setMember this name value = .ok changed) : Step registry heap changed
  | collect (roots : List Handle) : Step registry heap (heap.collect roots)
  | atTime (time : Nat) : Step registry heap (heap.atTime time)

/-- What steps of a program may do to the heap. -/
abbrev Heap.Steps (registry : Registry) : Heap → Heap → Prop :=
  Relation.ReflTransGen (Heap.Step registry)

variable {settings : Settings} {registry : Registry} {heap later : Heap}

namespace Heap

theorem Scripted.step (hheap : heap.Scripted) (hregistry : registry.All Constructor.MakesUnlinked)
    (hstep : heap.Step registry later) : later.Scripted := by
  cases hstep with
  | create hcreate => exact hheap.create hregistry hcreate
  | literal hleaf => exact hheap.literal hleaf
  | callMethod catalog this method arguments => exact hheap.callMethod catalog this method arguments
  | setMember hset => exact hheap.setMember hset
  | collect roots => exact hheap.collect roots
  | atTime time => exact hheap.atTime time

theorem Scripted.steps (hheap : heap.Scripted) (hregistry : registry.All Constructor.MakesUnlinked)
    (hsteps : heap.Steps registry later) : later.Scripted := by
  induction hsteps with
  | refl => exact hheap
  | tail _ hstep ih => exact ih.step hregistry hstep

theorem Scripted.ages_callMethod (hheap : heap.Scripted) (catalog : NodeCatalog) (this : Handle)
    (method : String) (arguments : List Value) :
    heap.Ages (heap.callMethod catalog this method arguments).heap := by
  cases hget : heap.get? this with
  | none =>
      rw [callMethod_of_none hget]
      exact .refl heap
  | some component =>
      cases hcall : component.call (heap.lend this) catalog this ⟨Name.key method, arguments⟩ with
      | error e =>
          rw [callMethod_of_error hget hcall]
          exact .refl heap
      | ok effect =>
          obtain ⟨made, hmade⟩ := (hheap.alters_of_call hcall).exists_makes
          rw [callMethod_of_ok hget hcall]
          exact ((Makes.lend heap this).ages.trans hmade.ages).trans (Makes.restore ..).ages

theorem ages_setMember {this : Handle} {name : String} {value : Value}
    (hset : heap.setMember this name value = .ok later) : heap.Ages later := by
  cases hget : heap.get? this with
  | none =>
      rw [setMember, writeMember_of_none hget] at hset
      cases hset
  | some component =>
      rw [setMember_of_get? hget] at hset
      obtain ⟨new, -, rfl⟩ := map_eq_ok_iff.mp hset
      exact (Makes.set heap this new).ages

theorem Scripted.ages (hheap : heap.Scripted) (hstep : heap.Step registry later) :
    heap.Ages later := by
  cases hstep with
  | create hcreate => exact .alloc hheap.forested.wellFormed _
  | literal hleaf => exact .alloc hheap.forested.wellFormed _
  | callMethod catalog this method arguments =>
      exact hheap.ages_callMethod catalog this method arguments
  | setMember hset => exact ages_setMember hset
  | collect roots => exact .collect heap roots
  | atTime time => exact .atTime heap time

theorem Scripted.ages_of_steps (hheap : heap.Scripted)
    (hregistry : registry.All Constructor.MakesUnlinked) (hsteps : heap.Steps registry later) :
    heap.Ages later := by
  induction hsteps with
  | refl => exact .refl heap
  | tail hbefore hstep ih => exact ih.trans ((hheap.steps hregistry hbefore).ages hstep)

/-- What a component keeps of its history from one heap to a later one: the later history is the
same with one list of events more, whatever the history was. -/
def Records (this : Handle) (heap later : Heap) : Prop :=
  ∃ more, ∀ history, Recorded this heap history → Recorded this later (history ++ more)

variable {this : Handle}

theorem Records.silent (hrecorded : ∀ history, Recorded this heap history →
    Recorded this later history) : Records this heap later := by
  refine ⟨[], fun history hhistory => ?_⟩
  rw [List.append_nil]
  exact hrecorded history hhistory

theorem Records.trans {between : Heap} (h₁ : Records this heap between)
    (h₂ : Records this between later) : Records this heap later := by
  obtain ⟨first, hfirst⟩ := h₁
  obtain ⟨second, hsecond⟩ := h₂
  refine ⟨first ++ second, fun history hhistory => ?_⟩
  rw [← List.append_assoc]
  exact hsecond _ (hfirst history hhistory)

theorem Recorded.reaches {history : List (MapEvent Value)} (hrecorded : Recorded this heap history)
    {roots : List Handle} (hvalid : (heap.collect roots).isValid this = true) :
    heap.Reaches roots this := by
  obtain ⟨slot, hslot⟩ := isValid_iff.mp hvalid
  obtain ⟨hbefore, hborrowed | hreach⟩ :=
    (hrecorded.scripted.forested.wellFormed.slot?_collect_eq_some_iff roots).mp hslot
  · have hnone : heap.get? this = none := by
      rw [get?, hbefore, Option.bind_some, Slot.component?, hborrowed]
    have hfields := hrecorded.fields?_eq
    rw [fields?, hnone] at hfields
    cases hfields
  · exact hreach

/-- A step lengthens the history of every component that is still there. -/
theorem Step.records (hstep : heap.Step registry later)
    (hregistry : registry.All Constructor.MakesUnlinked) (hvalid : later.isValid this = true) :
    Records this heap later := by
  cases hstep with
  | create hcreate => exact .silent fun _ hrecorded => hrecorded.create hregistry hcreate
  | literal hleaf => exact .silent fun _ hrecorded => hrecorded.literal hleaf
  | callMethod catalog receiver method arguments =>
      exact ⟨_, fun _ hrecorded => hrecorded.callMethod catalog receiver method arguments⟩
  | setMember hset => exact ⟨_, fun _ hrecorded => hrecorded.setMember hset⟩
  | collect roots => exact .silent fun _ hrecorded => hrecorded.collect (hrecorded.reaches hvalid)
  | atTime time => exact .silent fun _ hrecorded => hrecorded.atTime time

theorem Steps.records (hsteps : heap.Steps registry later)
    (hregistry : registry.All Constructor.MakesUnlinked) (hheap : heap.Scripted)
    (hbefore : heap.isValid this = true) (hvalid : later.isValid this = true) :
    Records this heap later := by
  -- a component that is there in the end has been there all the time, as no handle comes back
  obtain ⟨slot, hslot⟩ := isValid_iff.mp hbefore
  have hpassed := passed_of_slot? hslot
  induction hsteps with
  | refl => exact .silent fun _ => id
  | tail hfirst hstep ih =>
      have hbetween := hheap.steps hregistry hfirst
      have hstill := (hpassed.ages (hheap.ages_of_steps hregistry hfirst)).isValid
        (hbetween.ages hstep) hvalid
      exact (ih hstill).trans (hstep.records hregistry hvalid)

end Heap

theorem Heap.steps_writeMember (heap : Heap) (this : Handle) (name : String) (value : Value) :
    heap.Steps registry (heap.writeMember this name value).2 := by
  cases hwritten : heap.writeMember this name value with
  | mk result changed =>
      cases result with
      | ok =>
          have hset : heap.setMember this name value = .ok changed := by
            rw [setMember, hwritten]
          exact .single (.setMember hset)
      | error e =>
          have hsame := heap_of_failed_write (congrArg Prod.fst hwritten)
          rw [hwritten] at hsame
          exact hsame ▸ .refl

namespace RunContext

variable {before after : RunContext}

theorem steps_create (registry : Registry) (kind : String) (arguments : List Value)
    (context : RunContext) :
    context.heap.Steps registry (timed (Builtin.create registry kind arguments) context).2.heap := by
  have htick : context.heap.Steps registry context.tick.heap := .single (.atTime _)
  unfold timed Builtin.create
  split
  · next creation hcreate => exact htick.tail (.create hcreate)
  · exact htick

theorem Step.heapSteps (hstep : before.Step settings after) :
    before.heap.Steps settings.registry after.heap := by
  cases hstep with
  | alloc hleaf => exact .single (.literal hleaf)
  | call receiver name arguments =>
      exact .tail (.single (.atTime _)) (.callMethod before.catalog receiver name arguments)
  | write receiver name value => exact before.heap.steps_writeMember receiver name value
  | builtin haction =>
      cases Builtin.outcome_of_call haction with
      | create kind => exact steps_create settings.registry kind _ before
      | write path contents =>
          unfold Builtin.write
          split <;> exact .refl
      | give hgive =>
          rw [hgive]
  | print line => exact .refl
  | collect roots => exact .single (.collect roots)
  | declare definition => exact .refl

theorem Steps.heapSteps (hsteps : before.Steps settings after) :
    before.heap.Steps settings.registry after.heap :=
  hsteps.lift' RunContext.heap fun _ _ hstep => hstep.heapSteps

end RunContext

namespace Launch

variable (source : String) (statements : List Statement) (files : FileSystem) (run : RunId)
  (clock : Nat) (readings : List Nat)

theorem scripted_firstMachine :
    (firstMachine source (freshContext files run clock readings)).context.heap.Scripted :=
  (Heap.Scripted.empty run clock).literal rfl

theorem steps_moments (settings : Settings) (context : RunContext) :
    let start := firstMachine source context
    (∀ moment ∈ moments settings source statements context,
      start.context.Steps settings moment.machine.context) ∧
    (moments settings source statements context).Pairwise fun earlier later =>
      earlier.machine.context.Steps settings later.machine.context := by
  intro start
  have hsteps := Evaluator.Watch.steps_runProgram settings statements start
  obtain ⟨hfirst, hlater⟩ := List.pairwise_cons.mp (List.pairwise_append.mp hsteps).1
  exact ⟨List.forall_mem_map.mp hfirst, List.pairwise_map.mp hlater⟩

/-- At every moment of a run, the heap is one that programs build. -/
theorem scripted_of_mem_moments (hregistry : settings.registry.All Constructor.MakesUnlinked) :
    ∀ moment ∈ moments settings source statements (freshContext files run clock readings),
      moment.machine.context.heap.Scripted := by
  intro moment hmoment
  have hsteps := (steps_moments source statements settings _).1 moment hmoment
  exact (scripted_firstMachine source files run clock readings).steps hregistry hsteps.heapSteps

/-- From one moment of a run to a later one, the history of every component that is still there gets
longer. -/
theorem records_moments (hregistry : settings.registry.All Constructor.MakesUnlinked) :
    (moments settings source statements (freshContext files run clock readings)).Pairwise
      fun earlier later => ∀ this, earlier.machine.context.heap.isValid this = true →
        later.machine.context.heap.isValid this = true →
          Heap.Records this earlier.machine.context.heap later.machine.context.heap := by
  have hscripted := scripted_of_mem_moments source statements files run clock readings hregistry
  refine (steps_moments source statements settings _).2.imp_of_mem ?_
  intro earlier later hearlier _ hsteps this hbefore hvalid
  exact hsteps.heapSteps.records hregistry (hscripted earlier hearlier) hbefore hvalid

end Launch

end BrightScript
