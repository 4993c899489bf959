import BrightScript.Component.Registry
import BrightScript.Evaluator.Fault
import BrightScript.Heap.Collect
import BrightScript.Storage.FileSystem

/-!
The state of a running program. Values that are computed but not yet stored anywhere are held as
temporaries, so that a collection finds them.
-/

namespace BrightScript

/-- What belongs to one run: storage, components, declared kinds of nodes, printed lines, warnings
and times. -/
structure RunContext where
  files : FileSystem := .standard
  heap : Heap := .empty ⟨0⟩
  catalog : NodeCatalog := .empty
  output : List String := []
  warnings : List String := []
  /-- What the clock will read, the next time first. Where nothing is left, it stands still. -/
  readings : List Nat := []
  deriving Inhabited

namespace RunContext

def print (context : RunContext) (line : String) : RunContext :=
  { context with output := context.output ++ [line] }

def warn (context : RunContext) (warnings : List String) : RunContext :=
  { context with warnings := context.warnings ++ warnings }

def alloc : RunContext → Component → Handle × RunContext
  | ⟨files, heap, catalog, output, warnings, readings⟩, component =>
    let (handle, heap) := heap.alloc component
    (handle, ⟨files, heap, catalog, output, warnings, readings⟩)

/-- Reads the clock. -/
def tick : RunContext → RunContext
  | ⟨files, heap, catalog, output, warnings, readings⟩ =>
    let time := readings.headD heap.clock
    ⟨files, heap.atTime time, catalog, output, warnings, readings.tail⟩

/-- Makes a change at the time that the clock reads then. -/
def timed {α : Type} (change : RunContext → α × RunContext) (context : RunContext) :
    α × RunContext :=
  change context.tick

end RunContext

/-- A declared function. -/
structure Function where
  name : String
  parameters : List String
  body : List Statement

/-- The variables of one call. -/
abbrev Frame := NameMap Value

/-- What an evaluator is given once and for all. -/
structure Settings where
  registry : Registry := .builtin
  /-- After how many new components garbage is collected; never, if there is no number. -/
  threshold : Option Nat := some 4096

/-- The state of a running program. -/
structure Machine where
  context : RunContext
  /-- The table that the entry point is given. -/
  scope : Handle
  functions : NameMap Function := .empty
  /-- The variables of the calls under way, the innermost first. -/
  frames : List Frame := [.empty]
  /-- Values in the midst of a computation, the latest first. -/
  temporaries : List Value := []
  /-- The values of the top-level statements, the latest first. -/
  results : List Value := []

namespace Machine

/-- The handles that the machine itself holds. -/
def roots (machine : Machine) : List Handle :=
  machine.scope :: (machine.frames.flatMap fun frame => Value.handles frame.values) ++
    Value.handles machine.temporaries ++ Value.handles machine.results ++
    machine.context.catalog.references

/-- Frees the components that the machine cannot reach any more. -/
def sweep (machine : Machine) : Machine :=
  { machine with context := { machine.context with
      heap := machine.context.heap.collect machine.roots } }

/-- Collects garbage if it is time. -/
def collect (settings : Settings) (machine : Machine) : Machine :=
  match settings.threshold with
  | none => machine
  | some threshold => if machine.context.heap.isDue threshold then machine.sweep else machine

/-- Declares a function, in place of any of the same name. -/
def declare (machine : Machine) (function : Function) : Machine :=
  { machine with functions := machine.functions.insert function.name function }

/-- The value of a variable of the innermost call. -/
def valueOf? (machine : Machine) (name : String) : Option Value :=
  machine.frames.head?.bind (·.get? name)

/-- Sets a variable of the innermost call. -/
def assign (machine : Machine) (name : String) (value : Value) : Machine :=
  match machine.frames with
  | frame :: frames => { machine with frames := frame.insert name value :: frames }
  | [] => { machine with frames := [Dictionary.empty.insert name value] }

/-- The text of a value as it is printed. -/
def display (machine : Machine) : Value → String
  | .object handle =>
    match machine.context.heap.get? handle with
    | some (.text value) => value
    | some component => "<Component: " ++ component.kindName ++ ">"
    | none => "<Component: released>"
  | value => value.display

end Machine

/-- A computation of a running program, which may end in a fault. -/
abbrev Run := EStateM Fault Machine

namespace Run

/-- Ends the run with an error in a part of the source text. -/
def fail {α : Type} (error : RuntimeError) (span : Option Span) : Run α :=
  throw (.runtime error span)

/-- Goes on with a result, or ends the run. -/
def lift {α : Type} (span : Span) (result : Except RuntimeError α) : Run α :=
  match result with
  | .ok value => pure value
  | .error error => fail error (some span)

/-- Does something and undoes a change of the state, whether it succeeds or not. -/
def bracket {α : Type} (start finish : Machine → Machine) (body : Run α) : Run α := fun machine =>
  match body (start machine) with
  | .ok value machine => .ok value (finish machine)
  | .error fault machine => .error fault (finish machine)

/-- Holds a value as a temporary meanwhile. -/
def holding {α : Type} (value : Value) (body : Run α) : Run α :=
  bracket (fun machine => { machine with temporaries := value :: machine.temporaries })
    (fun machine => { machine with temporaries := machine.temporaries.tail }) body

/-- Runs with the variables of a new call. -/
def within {α : Type} (frame : Frame) (body : Run α) : Run α :=
  bracket (fun machine => { machine with frames := frame :: machine.frames })
    (fun machine => { machine with frames := machine.frames.tail }) body

/-- Changes what belongs to the run, and gives the result of the change. -/
def withContext {α : Type} (change : RunContext → α × RunContext) : Run α :=
  -- taken apart, so that the change finds the slots of the heap unshared
  fun ⟨context, scope, functions, frames, temporaries, results⟩ =>
    let (value, context) := change context
    .ok value ⟨context, scope, functions, frames, temporaries, results⟩

def alloc (component : Component) : Run Value := do
  return .object (← withContext (·.alloc component))

end Run

end BrightScript
