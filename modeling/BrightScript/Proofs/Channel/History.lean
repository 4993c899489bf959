import BrightScript.Proofs.Channel.Launch

namespace BrightScript

deriving instance DecidableEq for Volume
deriving instance DecidableEq for FileSystem

section Changes

variable {α : Type} [DecidableEq α]

/-- The entries of a list that differ from those in front of them, the first one from `before`. -/
def changes (before : α) : List α → List α
  | [] => []
  | entry :: rest =>
    if entry = before then changes before rest else entry :: changes entry rest

theorem changes_append (before : α) (entries others : List α) :
    changes before (entries ++ others) =
      changes before entries ++ changes (entries.getLast?.getD before) others := by
  induction entries generalizing before with
  | nil => rfl
  | cons entry rest ih =>
      have hlast : (entry :: rest).getLast?.getD before = rest.getLast?.getD entry := by
        rw [List.getLast?_cons, Option.getD_some]
      rw [hlast, List.cons_append, changes, changes]
      split
      case isTrue hsame => rw [hsame, ih]
      case isFalse => rw [ih, List.cons_append]

end Changes

namespace Watched

variable {α β : Type}

/-- What the host sees change while a computation runs. -/
def history (body : Watched α) (machine : Machine) :
    List (List String × FileSystem × List String) :=
  changes (Launch.visible ⟨machine, []⟩) ((body.moments machine).map Launch.visible)

theorem history_bind (first : Watched α) (next : α → Watched β) (machine : Machine) :
    (first >>= next).history machine = first.history machine ++
      match first.run machine with
      | .ok value after => (next value).history after
      | .error _ _ => [] := by
  have hlast : ((first.moments machine).map Launch.visible).getLast?.getD
      (Launch.visible ⟨machine, []⟩) = Launch.visible ⟨Run.final (first.run machine), []⟩ := by
    rw [← first.ends, Moment.last, List.getLast?_map]
    cases (first.moments machine).getLast? <;> rfl
  simp only [history, Bind.bind, Watched.bind, List.map_append, changes_append, hlast]
  refine congrArg _ ?_
  cases first.run machine <;> rfl

theorem history_step {run : Run α} {machine : Machine}
    (hvisible : Launch.visible ⟨Run.final (run machine), []⟩ = Launch.visible ⟨machine, []⟩)
    {inHand : List Value} : (step inHand run).history machine = [] := by
  have hstart : Launch.visible ⟨machine, inHand⟩ = Launch.visible ⟨machine, []⟩ := rfl
  simp only [history, step, List.map_cons, List.map_nil, changes, hvisible, hstart, if_true]

theorem history_bind_pure {first : Watched α} {value : β} {machine : Machine}
    (hsilent : first.history machine = []) :
    (first >>= fun _ => pure value).history machine = [] := by
  rw [history_bind, hsilent, List.nil_append]
  cases first.run machine <;> rfl

end Watched

/-- What the host sees change while a program is launched. -/
def Launch.history (settings : Settings) (source : String) (statements : List Statement)
    (context : RunContext) : List (List String × FileSystem × List String) :=
  (Evaluator.Watch.runProgram settings statements).history (firstMachine source context)

end BrightScript
