import BrightScript.Evaluator.Builtin
import BrightScript.Evaluator.Operator
import BrightScript.Method.Dispatch

/-!
Running programs. Expressions and statements are evaluated by recursion on their syntax; calls of
functions go through a caller, which is given by how many more calls may be nested.
-/

namespace BrightScript.Evaluator

/-- How a function is called with arguments, from a part of the source text. -/
abbrev Caller := Function → List Value → Option Span → Run Value

/-- How a statement ends. -/
inductive Flow where
  | next
  | return (value : Value)

def literal : Literal → Value
  | .boolean value => .boolean value
  | .integer value => .integer value
  | .float value => .float value
  | .text value => .text value
  | .invalid => .invalid

def readVariable (span : Span) (name : String) : Run Value := do
  let machine ← get
  match machine.valueOf? name with
  | some value => return value
  | none =>
    if machine.functions.contains name then Run.fail (.functionAsValue name) (some span)
    else Run.fail (.uninitialized name) (some span)

/-- The component whose member is used. -/
def object (span : Span) (name : String) : Value → Run Handle
  | .object handle => return handle
  | value => Run.fail (.noMember value.typeName name) (some span)

/-- A value that decides between two ways. -/
def truth (span : Span) : Value → Run Bool
  | .boolean value => return value
  | value => Run.fail (.conditionType value.typeName) (some span)

def callNamed (settings : Settings) (call : Caller) (span : Span) (name : String)
    (arguments : List Value) : Run Value := do
  match Builtin.ofName? name with
  | some builtin =>
    Run.withContext (← Run.lift span (builtin.call settings.registry name arguments))
  | none =>
    match (← get).functions.get? name with
    | some function => call function arguments (some span)
    | none => Run.fail (.undefinedFunction name) (some span)

/-- Calls a method of a component of the run. -/
def callOn (receiver : Handle) (name : String) (arguments : List Value) :
    RunContext → Except MethodError Value × RunContext
  | ⟨files, heap, catalog, output, warnings, readings⟩ =>
    let called := heap.callMethod catalog receiver name arguments
    (called.result, ⟨files, called.heap, catalog, output, warnings ++ called.warnings, readings⟩)

def callMethod (span : Span) (receiver : Handle) (name : String) (arguments : List Value) :
    Run Value := do
  let result ← Run.withContext (RunContext.timed (callOn receiver name arguments))
  Run.lift span (result.mapError .method)

def getMember (span : Span) (handle : Handle) (name : String) : Run Value := do
  let machine ← get
  Run.lift span ((machine.context.heap.getMember handle name).mapError .method)

/-- Writes a member of a component of the run. -/
def writeOn (receiver : Handle) (name : String) (value : Value) :
    RunContext → Except MethodError Unit × RunContext
  | ⟨files, heap, catalog, output, warnings, readings⟩ =>
    let (result, heap) := heap.writeMember receiver name value
    (result, ⟨files, heap, catalog, output, warnings, readings⟩)

def setMember (span : Span) (handle : Handle) (name : String) (value : Value) : Run Unit := do
  let result ← Run.withContext (writeOn handle name value)
  Run.lift span (result.mapError .method)

mutual

def evaluate (settings : Settings) (call : Caller) : Expression → Run Value
  | .literal _ value => return literal value
  | .variable span name => readVariable span name
  | .array _ items => do
    let values ← evaluateAll settings call items
    Run.alloc (.array values.toArray)
  | .table _ entries => do
    let values ← evaluateFields settings call entries
    Run.alloc (.table (.ofList values))
  | .call span (.variable _ name) arguments => do
    let values ← evaluateAll settings call arguments
    callNamed settings call span name values
  | .call span (.member _ receiver name) arguments => do
    let value ← evaluate settings call receiver
    let values ← Run.holding value (evaluateAll settings call arguments)
    callMethod span (← object span name value) name values
  | .call span _ _ => Run.fail .notCallable (some span)
  | .member span receiver name => do
    let value ← evaluate settings call receiver
    getMember span (← object span name value) name
  | .binary _ .and left right => do
    let value ← truth left.span (← evaluate settings call left)
    if value then return .boolean (← truth right.span (← evaluate settings call right))
    else return .boolean false
  | .binary _ .or left right => do
    let value ← truth left.span (← evaluate settings call left)
    if value then return .boolean true
    else return .boolean (← truth right.span (← evaluate settings call right))
  | .binary span operator left right => do
    let first ← evaluate settings call left
    let second ← Run.holding first (evaluate settings call right)
    Run.lift span (Operator.binary operator first second)
  | .unary span operator operand => do
    let value ← evaluate settings call operand
    Run.lift span (Operator.unary operator value)

/-- Evaluates expressions from left to right, holding the values found so far. -/
def evaluateAll (settings : Settings) (call : Caller) : List Expression → Run (List Value)
  | [] => return []
  | expression :: rest => do
    let value ← evaluate settings call expression
    let values ← Run.holding value (evaluateAll settings call rest)
    return value :: values

/-- Evaluates named expressions from left to right, holding the values found so far. -/
def evaluateFields (settings : Settings) (call : Caller) :
    List (String × Expression) → Run (List (String × Value))
  | [] => return []
  | (name, expression) :: rest => do
    let value ← evaluate settings call expression
    let values ← Run.holding value (evaluateFields settings call rest)
    return (name, value) :: values

end

/-- Collects garbage if it is time. -/
def collect (settings : Settings) : Run Unit := modify (·.collect settings)

mutual

def execute (settings : Settings) (call : Caller) : Statement → Run Flow
  | .library _ _ => return .next
  | .print _ values => do
    let values ← evaluateAll settings call values
    modify fun machine =>
      let line := " ".intercalate (values.map machine.display)
      { machine with context := machine.context.print line }
    return .next
  | .assign _ name value => do
    let value ← evaluate settings call value
    modify (·.assign name value)
    return .next
  | .assignMember span receiver name value => do
    let value ← evaluate settings call value
    let target ← Run.holding value (evaluate settings call receiver)
    setMember span (← object span name target) name value
    return .next
  | .expression _ value => do
    let _ ← evaluate settings call value
    return .next
  | .conditional _ branches otherwise => do
    match ← executeBranches settings call branches with
    | some flow => return flow
    | none =>
      match otherwise with
      | some body => executeBlock settings call body
      | none => return .next
  | .function _ name parameters body _ => do
    modify (·.declare ⟨name, parameters, body⟩)
    return .next
  | .return _ none => return .return .invalid
  | .return _ (some value) => return .return (← evaluate settings call value)
  | .component _ name base fields => do
    let values ← evaluateFields settings call fields
    Run.withContext fun context =>
      ((), { context with catalog := context.catalog.declare ⟨name, base, values⟩ })
    return .next

/-- Executes the first branch whose condition holds, if there is one. -/
def executeBranches (settings : Settings) (call : Caller) :
    List (Expression × List Statement) → Run (Option Flow)
  | [] => return none
  | (condition, body) :: rest => do
    let value ← truth condition.span (← evaluate settings call condition)
    if value then return some (← executeBlock settings call body)
    else executeBranches settings call rest

/-- Executes statements in order, up to the first that returns. -/
def executeBlock (settings : Settings) (call : Caller) : List Statement → Run Flow
  | [] => return .next
  | statement :: rest => do
    match ← execute settings call statement with
    | .return value => return .return value
    | .next =>
      collect settings
      executeBlock settings call rest

end

/-- How many calls may be nested. -/
def maxDepth : Nat := 128

/-- Calls a function where `depth` more calls may be nested. -/
def callWithin (settings : Settings) : Nat → Caller
  | 0, function, _, span => Run.fail (.stackOverflow function.name) span
  | depth + 1, function, arguments, span => do
    if arguments.length ≠ function.parameters.length then
      Run.fail (.functionArity function.name function.parameters.length arguments.length) span
    else
      let frame : Frame := .ofList (function.parameters.zip arguments)
      match ← Run.within frame (executeBlock settings (callWithin settings depth) function.body) with
      | .return value => return value
      | .next => return .invalid

def callFunction (settings : Settings) : Caller := callWithin settings maxDepth

/-- Adds the value of a top-level statement. -/
def addResult (value : Value) : Run Unit :=
  modify fun machine => { machine with results := value :: machine.results }

/-- Executes the top-level statements in order, each of which has a value; says whether the end was
reached. -/
def executeProgram (settings : Settings) : List Statement → Run Bool
  | [] => return true
  | .expression _ expression :: rest => do
    addResult (← evaluate settings (callFunction settings) expression)
    collect settings
    executeProgram settings rest
  | statement :: rest => do
    match ← execute settings (callFunction settings) statement with
    | .return value =>
      addResult value
      return false
    | .next =>
      addResult .invalid
      collect settings
      executeProgram settings rest

/-- The functions that are called after the top-level statements, the first that is declared. -/
def entryPoints : List String := ["main", "runuserinterface"]

/-- Calls the entry point, which may take the scope of the run as its argument. -/
def callEntry (settings : Settings) : Run Unit := do
  let machine ← get
  match entryPoints.findSome? machine.functions.get? with
  | none => return
  | some function =>
    match function.parameters with
    | [] => addResult (← callFunction settings function [] none)
    | [_] => addResult (← callFunction settings function [.object machine.scope] none)
    | _ => Run.fail (.entryArity function.name) none

/-- Declares the functions among the top-level statements. -/
def hoist (machine : Machine) (statements : List Statement) : Machine :=
  statements.foldl (fun machine statement =>
    match statement with
    | .function _ name parameters body _ => machine.declare ⟨name, parameters, body⟩
    | _ => machine) machine

/-- To declare functions changes nothing else. -/
theorem exists_hoist_eq (machine : Machine) (statements : List Statement) :
    ∃ functions, hoist machine statements = { machine with functions := functions } := by
  unfold hoist
  induction statements generalizing machine with
  | nil => exact ⟨machine.functions, rfl⟩
  | cons statement statements ih =>
      rw [List.foldl_cons]
      split
      · next name parameters body _ =>
          obtain ⟨functions, hfunctions⟩ := ih (machine.declare ⟨name, parameters, body⟩)
          exact ⟨functions, hfunctions⟩
      · exact ih machine

@[simp] theorem frames_hoist (machine : Machine) (statements : List Statement) :
    (hoist machine statements).frames = machine.frames := by
  obtain ⟨functions, hfunctions⟩ := exists_hoist_eq machine statements
  rw [hfunctions]

@[simp] theorem temporaries_hoist (machine : Machine) (statements : List Statement) :
    (hoist machine statements).temporaries = machine.temporaries := by
  obtain ⟨functions, hfunctions⟩ := exists_hoist_eq machine statements
  rw [hfunctions]

@[simp] theorem context_hoist (machine : Machine) (statements : List Statement) :
    (hoist machine statements).context = machine.context := by
  obtain ⟨functions, hfunctions⟩ := exists_hoist_eq machine statements
  rw [hfunctions]

def runProgram (settings : Settings) (statements : List Statement) : Run Unit := do
  modify (hoist · statements)
  if ← executeProgram settings statements then callEntry settings

end BrightScript.Evaluator
