import BrightScript.Proofs.Evaluator.Watched
import BrightScript.Proofs.Renaming.Run

namespace BrightScript

/-- Two moments are the same up to a renaming of handles, and what is in hand resolves. -/
def Moment.Mirrored (moment moment' : Moment) : Prop :=
  ∃ π : Equiv.Perm Handle, moment.machine.Mirrors π moment'.machine ∧
    SameValues π moment.machine.context.heap moment.inHand moment'.inHand

theorem Machine.Mirrors.mirrored {π : Equiv.Perm Handle} {machine mirror : Machine}
    (hmachine : machine.Mirrors π mirror) : Moment.Mirrored ⟨machine, []⟩ ⟨mirror, []⟩ :=
  ⟨π, hmachine, rfl, List.forall_mem_nil _⟩

namespace Watched

variable {α β γ δ : Type} {related : Equiv.Perm Handle → Heap → α → β → Prop}
  {related' : Equiv.Perm Handle → Heap → γ → δ → Prop} {π : Equiv.Perm Handle}
  {machine mirror : Machine}

/-- What a computation gives and passes on a machine and on its mirror agrees. -/
structure Agrees {α β : Type} (related : Equiv.Perm Handle → Heap → α → β → Prop)
    (machine mirror : Machine) (first : Watched α) (second : Watched β) : Prop where
  result : Run.Agrees related machine mirror (first.run machine) (second.run mirror)
  moments : List.Forall₂ Moment.Mirrored (first.moments machine) (second.moments mirror)

theorem mirrored_final {result : EStateM.Result Fault Machine α}
    {result' : EStateM.Result Fault Machine β}
    (hresult : Run.Agrees related machine mirror result result') :
    Moment.Mirrored ⟨Run.final result, []⟩ ⟨Run.final result', []⟩ := by
  cases hresult with
  | ok hafter => exact hafter.mirrored
  | error hafter => exact hafter.mirrored

namespace Agrees

theorem pure (hmachine : machine.Mirrors π mirror) {value : α} {value' : β}
    (hrelated : related π machine.context.heap value value') :
    Agrees related machine mirror (Pure.pure value) (Pure.pure value') :=
  ⟨.pure hmachine hrelated, .nil⟩

theorem step (hmachine : machine.Mirrors π mirror) {inHand inHand' : List Value}
    (hhand : SameValues π machine.context.heap inHand inHand') {run : Run α} {run' : Run β}
    (hrun : Run.Agrees related machine mirror (run machine) (run' mirror)) :
    Agrees related machine mirror (Watched.step inHand run) (Watched.step inHand' run') :=
  ⟨hrun, .cons ⟨π, hmachine, hhand⟩ (.cons (mirrored_final hrun) .nil)⟩

theorem bind {first : Watched α} {second : Watched β} {next : α → Watched γ}
    {next' : β → Watched δ} (hfirst : Agrees related machine mirror first second)
    (hnext : ∀ {σ : Equiv.Perm Handle} {after after' : Machine} {value : α} {value' : β},
      after.Mirrors σ after' → related σ after.context.heap value value' →
      Agrees related' after after' (next value) (next' value')) :
    Agrees related' machine mirror (first >>= next) (second >>= next') := by
  refine ⟨hfirst.result.bind fun hafter hrelated => (hnext hafter hrelated).result, ?_⟩
  refine List.rel_append hfirst.moments ?_
  have hresult := hfirst.result
  revert hresult
  generalize first.run machine = result
  generalize second.run mirror = result'
  intro hresult
  cases hresult with
  | ok hafter _ _ hrelated => exact (hnext hafter hrelated).moments
  | error => exact .nil

theorem state_bind {next : Machine → Watched α} {next' : Machine → Watched β}
    (hnext : Agrees related machine mirror (next machine) (next' mirror)) :
    Agrees related machine mirror (Watched.state >>= next) (Watched.state >>= next') :=
  ⟨hnext.result, hnext.moments⟩

theorem bracket {start finish start' finish' : Machine → Machine} {body : Watched α}
    {body' : Watched β} {changed : Equiv.Perm Handle → Heap → α → β → Prop}
    (hstart : (start machine).Mirrors π (start' mirror))
    (hbody : Agrees related (start machine) (start' mirror) body body')
    (hfinish : ∀ {σ : Equiv.Perm Handle} {after after' : Machine}, after.Mirrors σ after' →
      after.temporaries = (start machine).temporaries →
      after'.temporaries = (start' mirror).temporaries →
      (finish after).Mirrors σ (finish' after') ∧
        (finish after).temporaries = machine.temporaries ∧
        (finish' after').temporaries = mirror.temporaries ∧
        ∀ {value : α} {value' : β}, related σ after.context.heap value value' →
          changed σ (finish after).context.heap value value') :
    Agrees changed machine mirror (Watched.bracket start finish body)
      (Watched.bracket start' finish' body') := by
  have hresult := Run.Agrees.bracket hbody.result hfinish
  exact ⟨hresult, .cons hstart.mirrored
    (List.rel_append hbody.moments (.cons (mirrored_final hresult) .nil))⟩

theorem holding {value value' : Value} {body : Watched α} {body' : Watched β}
    (hmachine : machine.Mirrors π mirror) (hvalue : SameValue π machine.context.heap value value')
    (hbody : ∀ {before before' : Machine}, before.Mirrors π before' →
      Agrees related before before' body body') :
    Agrees (fun σ heap result result' => related σ heap result result' ∧
        SameValue σ heap value value') machine mirror
      (Watched.holding value body) (Watched.holding value' body') := by
  obtain ⟨rfl, hholds⟩ := hvalue
  have hstart : Machine.Mirrors π { machine with temporaries := value :: machine.temporaries }
      { mirror with temporaries := value.rename π :: mirror.temporaries } := by
    rw [hmachine.temporaries]
    exact hmachine.withTemporaries (List.forall_mem_cons.mpr ⟨hholds, hmachine.covers_temporaries⟩)
  refine bracket hstart (hbody hstart) ?_
  -- the temporaries below the held value still agree, and so does the value itself
  intro σ after after' hafter hkept hkept'
  dsimp only at hkept hkept' ⊢
  have hagree := hafter.temporaries
  have hholds := hafter.covers_temporaries
  rw [hkept, List.forall_mem_cons] at hholds
  rw [hkept, hkept', List.map_cons, List.cons.injEq] at hagree
  rw [hkept, hkept', List.tail_cons, List.tail_cons]
  refine ⟨?_, rfl, rfl, fun hrelated => ⟨hrelated, hagree.1, hholds.1⟩⟩
  rw [hagree.2]
  exact hafter.withTemporaries hholds.2

theorem within {frame : Frame} {body : Watched α} {body' : Watched β}
    (hmachine : machine.Mirrors π mirror)
    (hframe : ∀ value ∈ frame.values, machine.context.heap.Holds value)
    (hbody : ∀ {before before' : Machine}, before.Mirrors π before' →
      Agrees related before before' body body') :
    Agrees related machine mirror (Watched.within frame body)
      (Watched.within (frame.mapValues (Value.rename π)) body') := by
  have hstart : Machine.Mirrors π { machine with frames := frame :: machine.frames }
      { mirror with frames := frame.mapValues (Value.rename π) :: mirror.frames } := by
    rw [hmachine.frames]
    exact hmachine.withFrames (List.forall_mem_cons.mpr ⟨hframe, hmachine.covers_frames⟩)
  refine bracket hstart (hbody hstart) ?_
  intro σ after after' hafter hkept hkept'
  refine ⟨?_, hkept, hkept', id⟩
  rw [hafter.frames, ← List.map_tail]
  exact hafter.withFrames fun frame hframe =>
    hafter.covers_frames frame (List.mem_of_mem_tail hframe)

end Agrees

/-- Two computations agree on every machine and its mirror. -/
def Alike {α β : Type} (related : Equiv.Perm Handle → Heap → α → β → Prop) (first : Watched α)
    (second : Watched β) : Prop :=
  ∀ ⦃π : Equiv.Perm Handle⦄ ⦃machine mirror : Machine⦄, machine.Mirrors π mirror →
    Agrees related machine mirror first second

namespace Alike

theorem bind {first : Watched α} {second : Watched β} {next : α → Watched γ}
    {next' : β → Watched δ} (hfirst : Alike related first second)
    (hnext : ∀ {σ : Equiv.Perm Handle} {after after' : Machine} {value : α} {value' : β},
      after.Mirrors σ after' → related σ after.context.heap value value' →
      Agrees related' after after' (next value) (next' value')) :
    Alike related' (first >>= next) (second >>= next') :=
  fun _ _ _ hmachine => (hfirst hmachine).bind hnext

/-- A value is found and held, until another result is found too. -/
theorem bindHolding {first second : Watched Value} {meanwhile : Watched α}
    {meanwhile' : Watched β} {next : Value → α → Watched γ} {next' : Value → β → Watched δ}
    (hfirst : Alike SameValue first second) (hmeanwhile : Alike related meanwhile meanwhile')
    (hnext : ∀ {σ : Equiv.Perm Handle} {after after' : Machine} {value value' : Value} {result : α}
      {result' : β}, after.Mirrors σ after' → SameValue σ after.context.heap value value' →
      related σ after.context.heap result result' →
      Agrees related' after after' (next value result) (next' value' result')) :
    Alike related'
      (first >>= fun value => Watched.holding value meanwhile >>= next value)
      (second >>= fun value => Watched.holding value meanwhile' >>= next' value) := by
  refine hfirst.bind fun hafter hvalue => ?_
  refine (Agrees.holding hafter hvalue (hmeanwhile ·)).bind fun hend hboth => ?_
  exact hnext hend hboth.2 hboth.1

end Alike

end Watched

end BrightScript
