import BrightScript.Proofs.Channel.Launch
import BrightScript.Proofs.Evaluator.Termination

namespace BrightScript.Launch

theorem frames_firstMachine (source : String) (context : RunContext) :
    (firstMachine source context).frames.length = 1 := rfl

/-- Wherever the stack is within its limit, whatever functions are declared, the evaluation of an
expression, the execution of a statement and the call of a function come to an end. -/
def EndsWithinLimit (settings : Settings) : Prop :=
  ∀ machine : Machine, 0 < machine.frames.length → machine.frames.length ≤ Evaluator.maxDepth + 1 →
    (∀ expression, (UnboundedEvaluator.evaluate settings expression machine).isSome = true) ∧
    (∀ statement, (UnboundedEvaluator.execute settings statement machine).isSome = true) ∧
    ∀ function arguments span,
      (UnboundedEvaluator.callFunction settings function arguments span machine).isSome = true

theorem isSome_ofRun {α : Type} (run : Run α) (machine : Machine) :
    (Unbounded.ofRun run machine).isSome = true := by
  unfold Unbounded.ofRun
  cases run machine <;> rfl

theorem endsWithinLimit (settings : Settings) : EndsWithinLimit settings := by
  intro machine hpositive hlimit
  have hcall := @Evaluator.callsFollow_callWithin settings machine.frames.length
    (Evaluator.maxDepth + 1 - machine.frames.length) hpositive (by omega)
  have hframes := And.intro hpositive hlimit
  refine ⟨fun expression => ?_, fun statement => ?_, fun function arguments span => ?_⟩
  · rw [(Evaluator.follows_evaluate hframes hcall expression machine rfl).1]
    exact isSome_ofRun _ _
  · rw [(Evaluator.follows_execute hframes hcall statement machine rfl).1]
    exact isSome_ofRun _ _
  · rw [(hcall function arguments span machine rfl).1]
    exact isSome_ofRun _ _

theorem interpreter_eq (settings : Settings) (source : String) (statements : List Statement)
    (context : RunContext) :
    let start := firstMachine source context
    ∃ outcome ended,
      Unbounded.ofRun (Evaluator.runProgram settings statements) start = some (outcome, ended) ∧
      Evaluator.interpreter settings statements start.scope start.context =
        (outcome.map fun _ => ended.results.reverse, ended.context) := by
  intro start
  have hstart : { context := start.context, scope := start.scope } = start := rfl
  rw [Unbounded.ofRun, Evaluator.interpreter, hstart]
  cases Evaluator.runProgram settings statements start with
  | ok value ended => exact ⟨.ok value, ended, rfl, rfl⟩
  | error fault ended => exact ⟨.error fault, ended, rfl, rfl⟩

/-- Every program ends without any bound on its computation, and as the interpreter says. The stack
never holds more frames than the limit and one, and a call made when it holds as many fails before
the body of the function is run. -/
theorem program_terminates (threshold : Option Nat) (source : String) (statements : List Statement)
    (files : FileSystem) (run : RunId) (clock : Nat) (readings : List Nat) :
    let settings : Settings := { threshold := threshold }
    let context := freshContext files run clock readings
    let start := firstMachine source context
    (∃ outcome ended,
      UnboundedEvaluator.runProgram settings statements start = some (outcome, ended) ∧
      Evaluator.interpreter settings statements start.scope start.context =
        (outcome.map fun _ => ended.results.reverse, ended.context)) ∧
    EndsWithinLimit settings ∧
    (∀ moment ∈ moments settings source statements context,
      moment.machine.frames.length ≤ Evaluator.maxDepth + 1) ∧
    ∀ machine : Machine, machine.frames.length = Evaluator.maxDepth + 1 →
      ∀ function arguments span,
        UnboundedEvaluator.callFunction settings function arguments span machine =
          some (.error (.runtime (.stackOverflow function.name) span), machine) := by
  intro settings context start
  obtain ⟨hrun, -, hmoments⟩ := @Evaluator.follows_runProgram settings statements start
    (frames_firstMachine source context)
  refine ⟨?_, endsWithinLimit settings, hmoments, ?_⟩
  · rw [hrun, Evaluator.Watch.run_runProgram]
    exact interpreter_eq settings source statements context
  · intro machine hfull function arguments span
    rw [UnboundedEvaluator.callFunction_apply, if_pos (by omega)]

end BrightScript.Launch
