import Mathlib
import BrightScript.Proofs.Evaluator.Watched

namespace BrightScript

/-- A computation of a running program that has no result if it does not end. -/
abbrev Unbounded := ExceptT Fault (StateT Machine Option)

namespace Unbounded

variable {α β : Type}

/-- A computation that ends. -/
def ofRun (run : Run α) : Unbounded α := fun machine =>
  match run machine with
  | .ok value after => some (.ok value, after)
  | .error fault after => some (.error fault, after)

/-- Does something and undoes a change of the state, whether it succeeds or not. -/
def bracket (start finish : Machine → Machine) (body : Unbounded α) : Unbounded α :=
  fun machine => do
    let (outcome, after) ← body.run.run (start machine)
    return (outcome, finish after)

def holding (value : Value) : Unbounded α → Unbounded α :=
  bracket (fun machine => { machine with temporaries := value :: machine.temporaries })
    (fun machine => { machine with temporaries := machine.temporaries.tail })

def within (frame : Frame) : Unbounded α → Unbounded α :=
  bracket (fun machine => { machine with frames := frame :: machine.frames })
    (fun machine => { machine with frames := machine.frames.tail })

end Unbounded

/-- The settings of an evaluator that is told no bound on the calls it nests. -/
abbrev UnboundedEvaluator := Settings

namespace UnboundedEvaluator

open Evaluator Unbounded

mutual

def evaluate (settings : UnboundedEvaluator) : Expression → Unbounded Value
  | .literal _ value => return literal value
  | .variable span name => ofRun (readVariable span name)
  | .array _ items => do
    let values ← settings |>.evaluateAll items
    ofRun (Run.alloc (.array values.toArray))
  | .table _ entries => do
    let values ← settings |>.evaluateFields entries
    ofRun (Run.alloc (.table (.ofList values)))
  | .call span (.variable _ name) arguments => do
    let values ← settings |>.evaluateAll arguments
    settings |>.callNamed span name values
  | .call span (.member _ receiver name) arguments => do
    let value ← settings |>.evaluate receiver
    let values ← settings |>.evaluateAllHolding value arguments
    ofRun do callMethod span (← object span name value) name values
  | .call span _ _ => ofRun (Run.fail .notCallable (some span))
  | .member span receiver name => do
    let value ← settings |>.evaluate receiver
    ofRun do getMember span (← object span name value) name
  | .binary _ .and left right => do
    let first ← settings |>.evaluate left
    if ← ofRun (truth left.span first) then
      let second ← settings |>.evaluate right
      return .boolean (← ofRun (truth right.span second))
    else return .boolean false
  | .binary _ .or left right => do
    let first ← settings |>.evaluate left
    if ← ofRun (truth left.span first) then return .boolean true
    else
      let second ← settings |>.evaluate right
      return .boolean (← ofRun (truth right.span second))
  | .binary span operator left right => do
    let first ← settings |>.evaluate left
    let second ← settings |>.evaluateHolding first right
    ofRun (Run.lift span (Operator.binary operator first second))
  | .unary span operator operand => do
    let value ← settings |>.evaluate operand
    ofRun (Run.lift span (Operator.unary operator value))
partial_fixpoint

/-- Evaluates an expression while a value is held. -/
def evaluateHolding (settings : UnboundedEvaluator) (value : Value) (expression : Expression) :
    Unbounded Value := fun machine => do
  let (outcome, after) ← (settings |>.evaluate expression).run.run
    { machine with temporaries := value :: machine.temporaries }
  return (outcome, { after with temporaries := after.temporaries.tail })
partial_fixpoint

/-- Evaluates expressions from left to right, holding the values found so far. -/
def evaluateAll (settings : UnboundedEvaluator) : List Expression → Unbounded (List Value)
  | [] => return []
  | expression :: rest => do
    let value ← settings |>.evaluate expression
    let values ← settings |>.evaluateAllHolding value rest
    return value :: values
partial_fixpoint

/-- Evaluates expressions while a value is held. -/
def evaluateAllHolding (settings : UnboundedEvaluator) (value : Value)
    (expressions : List Expression) : Unbounded (List Value) := fun machine => do
  let (outcome, after) ← (settings |>.evaluateAll expressions).run.run
    { machine with temporaries := value :: machine.temporaries }
  return (outcome, { after with temporaries := after.temporaries.tail })
partial_fixpoint

/-- Evaluates named expressions from left to right, holding the values found so far. -/
def evaluateFields (settings : UnboundedEvaluator) :
    List (String × Expression) → Unbounded (List (String × Value))
  | [] => return []
  | (name, expression) :: rest => do
    let value ← settings |>.evaluate expression
    let values ← settings |>.evaluateFieldsHolding value rest
    return (name, value) :: values
partial_fixpoint

/-- Evaluates named expressions while a value is held. -/
def evaluateFieldsHolding (settings : UnboundedEvaluator) (value : Value)
    (fields : List (String × Expression)) : Unbounded (List (String × Value)) := fun machine => do
  let (outcome, after) ← (settings |>.evaluateFields fields).run.run
    { machine with temporaries := value :: machine.temporaries }
  return (outcome, { after with temporaries := after.temporaries.tail })
partial_fixpoint

def callNamed (settings : UnboundedEvaluator) (span : Span) (name : String)
    (arguments : List Value) : Unbounded Value := do
  match Builtin.ofName? name with
  | some builtin => ofRun do
    Run.withContext (← Run.lift span (builtin.call settings.registry name arguments))
  | none =>
    match (← get).functions.get? name with
    | some function => settings |>.callFunction function arguments (some span)
    | none => ofRun (Run.fail (.undefinedFunction name) (some span))
partial_fixpoint

/-- Calls a function, unless too many calls are nested already. -/
def callFunction (settings : UnboundedEvaluator) (function : Function) (arguments : List Value)
    (span : Option Span) : Unbounded Value := do
  if maxDepth < (← get).frames.length then
    ofRun (Run.fail (.stackOverflow function.name) span)
  else settings |>.enterFunction function arguments span
partial_fixpoint

/-- Runs the body of a function that is given as many arguments as it has parameters. -/
def enterFunction (settings : UnboundedEvaluator) (function : Function) (arguments : List Value)
    (span : Option Span) : Unbounded Value := do
  if arguments.length ≠ function.parameters.length then
    ofRun (Run.fail
      (.functionArity function.name function.parameters.length arguments.length) span)
  else
    let frame := .ofList (function.parameters.zip arguments)
    match ← settings |>.executeWithin frame function.body with
    | .return value => return value
    | .next => return .invalid
partial_fixpoint

/-- Executes the body of a function with its variables. -/
def executeWithin (settings : UnboundedEvaluator) (frame : Frame) (body : List Statement) :
    Unbounded Flow := fun machine => do
  let (outcome, after) ← (settings |>.executeBlock body).run.run
    { machine with frames := frame :: machine.frames }
  return (outcome, { after with frames := after.frames.tail })
partial_fixpoint

def execute (settings : UnboundedEvaluator) : Statement → Unbounded Flow
  | .library _ _ => return .next
  | .print _ values => do
    let values ← settings |>.evaluateAll values
    ofRun (modify fun machine =>
      let line := " ".intercalate (values.map machine.display)
      { machine with context := machine.context.print line })
    return .next
  | .assign _ name value => do
    let value ← settings |>.evaluate value
    ofRun (modify (·.assign name value))
    return .next
  | .assignMember span receiver name value => do
    let value ← settings |>.evaluate value
    let target ← settings |>.evaluateHolding value receiver
    ofRun do setMember span (← object span name target) name value
    return .next
  | .expression _ value => do
    let _ ← settings |>.evaluate value
    return .next
  | .conditional _ branches otherwise => do
    match ← settings |>.executeBranches branches with
    | some flow => return flow
    | none =>
      match otherwise with
      | some body => settings |>.executeBlock body
      | none => return .next
  | .function _ name parameters body _ => do
    ofRun (modify (·.declare ⟨name, parameters, body⟩))
    return .next
  | .return _ none => return .return .invalid
  | .return _ (some value) => return .return (← settings |>.evaluate value)
  | .component _ name base fields => do
    let values ← settings |>.evaluateFields fields
    ofRun (Run.withContext fun context =>
      ((), { context with catalog := context.catalog.declare ⟨name, base, values⟩ }))
    return .next
partial_fixpoint

/-- Executes the first branch whose condition holds, if there is one. -/
def executeBranches (settings : UnboundedEvaluator) :
    List (Expression × List Statement) → Unbounded (Option Flow)
  | [] => return none
  | (condition, body) :: rest => do
    let value ← settings |>.evaluate condition
    if ← ofRun (truth condition.span value) then return some (← settings |>.executeBlock body)
    else settings |>.executeBranches rest
partial_fixpoint

def executeBlock (settings : UnboundedEvaluator) : List Statement → Unbounded Flow
  | [] => return .next
  | statement :: rest => do
    match ← settings |>.execute statement with
    | .return value => return .return value
    | .next =>
      ofRun (collect settings)
      settings |>.executeBlock rest
partial_fixpoint

end

/-- Executes the top-level statements in order, each of which has a value; says whether the end was
reached. -/
def executeProgram (settings : UnboundedEvaluator) : List Statement → Unbounded Bool
  | [] => return true
  | .expression _ expression :: rest => do
    let value ← settings |>.evaluate expression
    ofRun (addResult value)
    ofRun (collect settings)
    settings |>.executeProgram rest
  | statement :: rest => do
    match ← settings |>.execute statement with
    | .return value =>
      ofRun (addResult value)
      return false
    | .next =>
      ofRun (addResult .invalid)
      ofRun (collect settings)
      settings |>.executeProgram rest

/-- Calls the entry point, which may take the scope of the run as its argument. -/
def callEntry (settings : UnboundedEvaluator) : Unbounded Unit := do
  let machine ← get
  match entryPoints.findSome? machine.functions.get? with
  | none => return
  | some function =>
    match function.parameters with
    | [] => do
      let value ← settings |>.callFunction function [] none
      ofRun (addResult value)
    | [_] => do
      let value ← settings |>.callFunction function [.object machine.scope] none
      ofRun (addResult value)
    | _ => ofRun (Run.fail (.entryArity function.name) none)

def runProgram (settings : UnboundedEvaluator) (statements : List Statement) : Unbounded Unit := do
  ofRun (modify (hoist · statements))
  if ← settings |>.executeProgram statements then settings |>.callEntry

end UnboundedEvaluator

end BrightScript
