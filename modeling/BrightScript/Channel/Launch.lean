import BrightScript.Evaluator.Basic
import BrightScript.Heap.Snapshot

namespace BrightScript

/-- Runs a program with a scope. Whether it succeeds or not, the context shows what it did. -/
abbrev Interpreter := List Statement → Handle → RunContext → Except Fault (List Value) × RunContext

/-- The interpreter of this language. -/
def Evaluator.interpreter (settings : Settings) : Interpreter := fun statements scope context =>
  match runProgram settings statements { context := context, scope := scope } with
  | .ok _ machine => (.ok machine.results.reverse, machine.context)
  | .error fault machine => (.error fault, machine.context)

namespace Launch

/-- Where a channel is launched from if nothing else is said. -/
def defaultSource : String := "auto-run-dev"

/-- How the run before this one ended. -/
def terminationReason : String := "EXIT_UNKNOWN"

/-- The table that a program is given, with the place it is launched from. -/
def scope (source : String) : Component :=
  .table (.ofList [
    ("lastExitOrTerminationReason", .text terminationReason),
    ("source", .text source)])

/-- Runs a program and shows its results, all at one time. -/
def execute (interpreter : Interpreter) (source : String) (statements : List Statement)
    (context : RunContext) : Except Fault (List Json) × RunContext :=
  let (handle, context) := context.alloc (scope source)
  match interpreter statements handle context with
  | (.ok values, context) =>
    let context := context.tick
    (.ok (values.map context.heap.snapshot), context)
  | (.error fault, context) => (.error fault, context)

end Launch

end BrightScript
