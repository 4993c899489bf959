import BrightScript.Evaluator.Basic
import BrightScript.Proofs.Renaming.Machine

namespace BrightScript

/-- Any error but the use of a released component. -/
def RuntimeError.Ordinary (error : RuntimeError) : Prop := error ≠ .method .released

/-- Any fault but the use of a released component. -/
def Fault.Ordinary (fault : Fault) : Prop := ∀ span, fault ≠ .runtime (.method .released) span

/-- The same value under a renaming, which resolves. -/
def SameValue (π : Equiv.Perm Handle) (heap : Heap) (value value' : Value) : Prop :=
  value' = value.rename π ∧ heap.Holds value

/-- The same handle under a renaming, which is valid. -/
def SameHandle (π : Equiv.Perm Handle) (heap : Heap) (handle handle' : Handle) : Prop :=
  handle' = π handle ∧ heap.isValid handle = true

/-- The same values under a renaming, which resolve. -/
def SameValues (π : Equiv.Perm Handle) (heap : Heap) (values values' : List Value) : Prop :=
  values' = values.map (Value.rename π) ∧ ∀ value ∈ values, heap.Holds value

/-- The same named values under a renaming, which resolve. -/
def SameFields (π : Equiv.Perm Handle) (heap : Heap) (fields fields' : List (String × Value)) :
    Prop :=
  fields' = renameFields π fields ∧ ∀ field ∈ fields, heap.Holds field.2

section Same

variable {π : Equiv.Perm Handle} {heap : Heap}

theorem SameValues.nil : SameValues π heap [] [] := ⟨rfl, List.forall_mem_nil _⟩

theorem SameValue.cons {value value' : Value} {values values' : List Value}
    (hvalue : SameValue π heap value value') (hvalues : SameValues π heap values values') :
    SameValues π heap (value :: values) (value' :: values') := by
  obtain ⟨rfl, hholds⟩ := hvalue
  obtain ⟨rfl, hrest⟩ := hvalues
  exact ⟨rfl, List.forall_mem_cons.mpr ⟨hholds, hrest⟩⟩

theorem SameValue.single {value value' : Value} (hvalue : SameValue π heap value value') :
    SameValues π heap [value] [value'] :=
  hvalue.cons .nil

theorem SameFields.values {fields fields' : List (String × Value)}
    (hfields : SameFields π heap fields fields') :
    SameValues π heap (fields.map Prod.snd) (fields'.map Prod.snd) := by
  obtain ⟨rfl, hholds⟩ := hfields
  refine ⟨by rw [List.map_map, List.map_map]; rfl, fun value hvalue => ?_⟩
  obtain ⟨field, hfield, rfl⟩ := List.mem_map.mp hvalue
  exact hholds field hfield

theorem SameFields.cons {name : String} {value value' : Value}
    {fields fields' : List (String × Value)} (hvalue : SameValue π heap value value')
    (hfields : SameFields π heap fields fields') :
    SameFields π heap ((name, value) :: fields) ((name, value') :: fields') := by
  obtain ⟨rfl, hholds⟩ := hvalue
  obtain ⟨rfl, hrest⟩ := hfields
  exact ⟨rfl, List.forall_mem_cons.mpr ⟨hholds, hrest⟩⟩

end Same

namespace Run

theorem get_bind {α : Type} (body : Machine → Run α) (machine : Machine) :
    ((get : Run Machine) >>= body) machine = body machine machine := rfl

/-- What a computation gives on a machine and on its mirror agrees. -/
inductive Agrees {α β : Type} (related : Equiv.Perm Handle → Heap → α → β → Prop)
    (machine mirror : Machine) :
    EStateM.Result Fault Machine α → EStateM.Result Fault Machine β → Prop
  | ok {π : Equiv.Perm Handle} {value : α} {value' : β} {after after' : Machine}
      (hafter : after.Mirrors π after') (hkept : after.temporaries = machine.temporaries)
      (hkept' : after'.temporaries = mirror.temporaries)
      (hrelated : related π after.context.heap value value') :
      Agrees related machine mirror (.ok value after) (.ok value' after')
  | error {π : Equiv.Perm Handle} {fault : Fault} {after after' : Machine}
      (hafter : after.Mirrors π after') (hkept : after.temporaries = machine.temporaries)
      (hkept' : after'.temporaries = mirror.temporaries) (hfault : fault.Ordinary) :
      Agrees related machine mirror (.error fault after) (.error fault after')

namespace Agrees

variable {α β γ δ : Type} {related : Equiv.Perm Handle → Heap → α → β → Prop}
  {related' : Equiv.Perm Handle → Heap → γ → δ → Prop} {π : Equiv.Perm Handle}
  {machine mirror : Machine}

theorem of_kept {before before' : Machine} {result : EStateM.Result Fault Machine α}
    {result' : EStateM.Result Fault Machine β}
    (hresult : Agrees related before before' result result')
    (hkept : before.temporaries = machine.temporaries)
    (hkept' : before'.temporaries = mirror.temporaries) :
    Agrees related machine mirror result result' := by
  cases hresult with
  | ok hend hlast hlast' hrelated =>
      exact .ok hend (hlast.trans hkept) (hlast'.trans hkept') hrelated
  | error hend hlast hlast' hfault =>
      exact .error hend (hlast.trans hkept) (hlast'.trans hkept') hfault

theorem bind {first : Run α} {second : Run β} {next : α → Run γ} {next' : β → Run δ}
    (hfirst : Agrees related machine mirror (first machine) (second mirror))
    (hnext : ∀ {σ : Equiv.Perm Handle} {after after' : Machine} {value : α} {value' : β},
      after.Mirrors σ after' → related σ after.context.heap value value' →
      Agrees related' after after' (next value after) (next' value' after')) :
    Agrees related' machine mirror ((first >>= next) machine) ((second >>= next') mirror) := by
  change Agrees related' machine mirror (EStateM.bind first next machine)
    (EStateM.bind second next' mirror)
  unfold EStateM.bind
  revert hfirst
  generalize first machine = result
  generalize second mirror = result'
  intro hfirst
  cases hfirst with
  | ok hafter hkept hkept' hrelated => exact (hnext hafter hrelated).of_kept hkept hkept'
  | error hafter hkept hkept' hfault => exact .error hafter hkept hkept' hfault

theorem pure (hmachine : machine.Mirrors π mirror) {value : α} {value' : β}
    (hrelated : related π machine.context.heap value value') :
    Agrees related machine mirror ((Pure.pure value : Run α) machine)
      ((Pure.pure value' : Run β) mirror) :=
  .ok hmachine rfl rfl hrelated

theorem fail (hmachine : machine.Mirrors π mirror) {error : RuntimeError}
    (herror : error.Ordinary) (span : Option Span) :
    Agrees related machine mirror ((Run.fail error span : Run α) machine)
      ((Run.fail error span : Run β) mirror) := by
  refine .error hmachine rfl rfl fun other hsame => herror ?_
  cases hsame
  rfl

theorem lift (hmachine : machine.Mirrors π mirror) (span : Span)
    {result : Except RuntimeError α} {result' : Except RuntimeError β}
    (hresult : BrightScript.Agrees RuntimeError.Ordinary (related π machine.context.heap)
      result result') :
    Agrees related machine mirror (Run.lift span result machine)
      (Run.lift span result' mirror) := by
  cases hresult with
  | ok hrelated => exact pure hmachine hrelated
  | error hordinary => exact fail hmachine hordinary (some span)

theorem bracket {start finish start' finish' : Machine → Machine} {body : Run α} {body' : Run β}
    {related' : Equiv.Perm Handle → Heap → α → β → Prop}
    (hbody : Agrees related (start machine) (start' mirror) (body (start machine))
      (body' (start' mirror)))
    (hfinish : ∀ {σ : Equiv.Perm Handle} {after after' : Machine}, after.Mirrors σ after' →
      after.temporaries = (start machine).temporaries →
      after'.temporaries = (start' mirror).temporaries →
      (finish after).Mirrors σ (finish' after') ∧
        (finish after).temporaries = machine.temporaries ∧
        (finish' after').temporaries = mirror.temporaries ∧
        ∀ {value : α} {value' : β}, related σ after.context.heap value value' →
          related' σ (finish after).context.heap value value') :
    Agrees related' machine mirror (Run.bracket start finish body machine)
      (Run.bracket start' finish' body' mirror) := by
  unfold Run.bracket
  revert hbody
  generalize body (start machine) = result
  generalize body' (start' mirror) = result'
  intro hbody
  cases hbody with
  | ok hafter hkept hkept' hrelated =>
      obtain ⟨hend, hlast, hlast', hresult⟩ := hfinish hafter hkept hkept'
      exact .ok hend hlast hlast' (hresult hrelated)
  | error hafter hkept hkept' hfault =>
      obtain ⟨hend, hlast, hlast', -⟩ := hfinish hafter hkept hkept'
      exact .error hend hlast hlast' hfault

end Agrees

end Run

end BrightScript
