import BrightScript.Proofs.Evaluator.Watched
import BrightScript.Proofs.Respelling.Machine

namespace BrightScript

namespace Run

/-- Two results are the same but for the spelling of names. -/
inductive Matches (pairing : Pairing) {α : Type} :
    EStateM.Result Fault Machine α → EStateM.Result Fault Machine α → Prop
  | ok {value : α} {after after' : Machine} (hafter : after.Respelled pairing after') :
      Matches pairing (.ok value after) (.ok value after')
  | error {fault fault' : Fault} {after after' : Machine}
      (hafter : after.Respelled pairing after')
      (hfault : fault.Respelled pairing.spelling fault') :
      Matches pairing (.error fault after) (.error fault' after')

/-- Two computations do the same on any two machines in the same state but for spelling. -/
def Parallel {α : Type} (pairing : Pairing) (first second : Run α) : Prop :=
  ∀ ⦃machine other : Machine⦄, machine.Respelled pairing other →
    Matches pairing (first machine) (second other)

theorem Matches.final {α : Type} {pairing : Pairing}
    {result result' : EStateM.Result Fault Machine α}
    (hresult : Matches pairing result result') :
    (Run.final result).Respelled pairing (Run.final result') := by
  cases hresult with
  | ok hafter => exact hafter
  | error hafter => exact hafter

namespace Parallel

variable {α β : Type} {pairing : Pairing}

theorem pure (value : α) : Parallel pairing (Pure.pure value : Run α) (Pure.pure value) :=
  fun _ _ hmachine => .ok hmachine

theorem bind {first second : Run α} {next next' : α → Run β}
    (hfirst : Parallel pairing first second)
    (hnext : ∀ value, Parallel pairing (next value) (next' value)) :
    Parallel pairing (first >>= next) (second >>= next') := by
  intro machine other hmachine
  have hresult := hfirst hmachine
  change Matches pairing (EStateM.bind first next machine) (EStateM.bind second next' other)
  unfold EStateM.bind
  revert hresult
  generalize first machine = result
  generalize second other = result'
  intro hresult
  cases hresult with
  | ok hafter => exact hnext _ hafter
  | error hafter hfault => exact .error hafter hfault

theorem get_bind {next next' : Machine → Run α}
    (hnext : ∀ {machine other : Machine}, machine.Respelled pairing other →
      Parallel pairing (next machine) (next' other)) :
    Parallel pairing ((get : Run Machine) >>= next) ((get : Run Machine) >>= next') :=
  fun _ _ hmachine => hnext hmachine hmachine

theorem modify {change change' : Machine → Machine}
    (hchange : ∀ {machine other : Machine}, machine.Respelled pairing other →
      (change machine).Respelled pairing (change' other)) :
    Parallel pairing (modify change : Run Unit) (modify change' : Run Unit) :=
  fun _ _ hmachine => .ok (hchange hmachine)

theorem fail (error : RuntimeError) (span : Option Span) :
    Parallel pairing (Run.fail error span : Run α) (Run.fail error span) :=
  fun _ _ hmachine => .error hmachine (.same _)

theorem failRespelled (error : RuntimeError) (span : Option Span) :
    Parallel pairing (Run.fail error span : Run α)
      (Run.fail (error.respell pairing.spelling) span) :=
  fun _ _ hmachine => .error hmachine (.respelled error span)

theorem lift (span : Span) (result : Except RuntimeError α) :
    Parallel pairing (Run.lift span result) (Run.lift span result) := by
  cases result with
  | ok value => exact pure value
  | error error => exact fail error _

theorem liftRespelled (span : Span) (result : Except RuntimeError α) :
    Parallel pairing (Run.lift span result)
      (Run.lift span (result.mapError (RuntimeError.respell pairing.spelling))) := by
  cases result with
  | ok value => exact pure value
  | error error => exact failRespelled error _

theorem withContext (change : RunContext → α × RunContext) :
    Parallel pairing (Run.withContext change) (Run.withContext change) := by
  rintro ⟨context, scope, functions, frames, temporaries, results⟩
    ⟨_, scope', functions', frames', temporaries', results'⟩ hmachine
  obtain rfl := hmachine.context
  exact .ok (hmachine.withContext _)

theorem alloc (component : Component) :
    Parallel pairing (Run.alloc component) (Run.alloc component) :=
  (withContext _).bind fun handle => pure (Value.object handle)

theorem bracket {start finish start' finish' : Machine → Machine} {body body' : Run α}
    (hstart : ∀ {machine other : Machine}, machine.Respelled pairing other →
      (start machine).Respelled pairing (start' other))
    (hfinish : ∀ {machine other : Machine}, machine.Respelled pairing other →
      (finish machine).Respelled pairing (finish' other))
    (hbody : Parallel pairing body body') :
    Parallel pairing (Run.bracket start finish body) (Run.bracket start' finish' body') := by
  intro machine other hmachine
  have hresult := hbody (hstart hmachine)
  unfold Run.bracket
  revert hresult
  generalize body (start machine) = result
  generalize body' (start' other) = result'
  intro hresult
  cases hresult with
  | ok hafter => exact .ok (hfinish hafter)
  | error hafter hfault => exact .error (hfinish hafter) hfault

end Parallel

end Run

namespace Watched

variable {α β : Type} {pairing : Pairing}

/-- Two computations do and pass the same on any two machines in the same state but for spelling. -/
structure Parallel (pairing : Pairing) (first second : Watched α) : Prop where
  run : Run.Parallel pairing first.run second.run
  contexts_eq : ∀ {machine other : Machine}, machine.Respelled pairing other →
    second.contexts other = first.contexts machine

namespace Parallel

theorem pure (value : α) : Parallel pairing (Pure.pure value : Watched α) (Pure.pure value) :=
  ⟨.pure value, fun _ => rfl⟩

theorem step {inHand inHand' : List Value} {run run' : Run α} (hrun : run.Parallel pairing run') :
    Parallel pairing (Watched.step inHand run) (Watched.step inHand' run') := by
  refine ⟨hrun, fun hmachine => ?_⟩
  simp only [contexts, Watched.step, List.map_cons, List.map_nil, hmachine.context,
    (hrun hmachine).final.context]

theorem bind {first second : Watched α} {next next' : α → Watched β}
    (hfirst : Parallel pairing first second)
    (hnext : ∀ value, Parallel pairing (next value) (next' value)) :
    Parallel pairing (first >>= next) (second >>= next') := by
  refine ⟨hfirst.run.bind fun value => (hnext value).run, fun {machine other} hmachine => ?_⟩
  have hresult := hfirst.run hmachine
  have hcontexts := hfirst.contexts_eq hmachine
  simp only [contexts, Bind.bind, Watched.bind, List.map_append] at hcontexts ⊢
  rw [hcontexts]
  refine congrArg _ ?_
  revert hresult
  generalize first.run machine = result
  generalize second.run other = result'
  intro hresult
  cases hresult with
  | ok hafter => exact (hnext _).contexts_eq hafter
  | error => rfl

theorem state_bind {next next' : Machine → Watched α}
    (hnext : ∀ {machine other : Machine}, machine.Respelled pairing other →
      Parallel pairing (next machine) (next' other)) :
    Parallel pairing (Watched.state >>= next) (Watched.state >>= next') :=
  ⟨.get_bind fun hmachine => (hnext hmachine).run,
    fun hmachine => (hnext hmachine).contexts_eq hmachine⟩

theorem bracket {start finish start' finish' : Machine → Machine} {body body' : Watched α}
    (hstart : ∀ {machine other : Machine}, machine.Respelled pairing other →
      (start machine).Respelled pairing (start' other))
    (hfinish : ∀ {machine other : Machine}, machine.Respelled pairing other →
      (finish machine).Respelled pairing (finish' other))
    (hbody : Parallel pairing body body') :
    Parallel pairing (Watched.bracket start finish body)
      (Watched.bracket start' finish' body') := by
  have hrun := hbody.run.bracket hstart hfinish
  refine ⟨hrun, fun hmachine => ?_⟩
  have hcontexts := hbody.contexts_eq (hstart hmachine)
  simp only [contexts, Watched.bracket, List.cons_append, List.map_cons, List.map_append,
    List.map_nil] at hcontexts ⊢
  rw [hcontexts, (hstart hmachine).context, (hrun hmachine).final.context]

theorem holding (value : Value) {body body' : Watched α} (hbody : Parallel pairing body body') :
    Parallel pairing (Watched.holding value body) (Watched.holding value body') := by
  refine hbody.bracket (fun hmachine => ?_) fun hmachine => ?_
  · rw [hmachine.temporaries]
    exact hmachine.withTemporaries _
  · rw [hmachine.temporaries]
    exact hmachine.withTemporaries _

theorem within (frame : Frame) {body body' : Watched α} (hbody : Parallel pairing body body') :
    Parallel pairing (Watched.within frame body)
      (Watched.within (frame.respell pairing.spelling) body') := by
  refine hbody.bracket (fun hmachine => ?_) fun hmachine => ?_
  · rw [hmachine.frames]
    exact hmachine.withFrames (frame :: _)
  · rw [hmachine.frames, ← List.map_tail]
    exact hmachine.withFrames _

end Parallel

end Watched

end BrightScript
