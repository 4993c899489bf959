import BrightScript.Evaluator.Basic

/-!
Running programs under watch. A watched computation does what the computation itself does, and also
tells the moments that it passes: the states of the machine, with the values that are in hand there
because a step is about to use them.
-/

namespace BrightScript

/-- A state of a running program, and the values that the next step uses. -/
structure Moment where
  machine : Machine
  inHand : List Value := []

/-- The state at the last moment of a list, or the state before it if there is none. -/
def Moment.last (before : Machine) (moments : List Moment) : Machine :=
  (moments.getLast?.map Moment.machine).getD before

theorem Moment.last_append (before : Machine) (moments others : List Moment) :
    last before (moments ++ others) = last (last before moments) others := by
  unfold last
  rw [List.getLast?_append]
  cases others.getLast? <;> rfl

/-- The state in which a computation ends. -/
def Run.final {α : Type} : EStateM.Result Fault Machine α → Machine
  | .ok _ machine => machine
  | .error _ machine => machine

/-- A computation, and the moments that it passes from a state on, up to the state it ends in. -/
structure Watched (α : Type) where
  run : Run α
  moments : Machine → List Moment
  ends : ∀ machine, Moment.last machine (moments machine) = Run.final (run machine)

namespace Watched

def contexts {α : Type} (computation : Watched α) (machine : Machine) : List RunContext :=
  (computation.moments machine).map fun moment => moment.machine.context

/-- A value, for which nothing has to be done. -/
protected def pure {α : Type} (value : α) : Watched α where
  run := Pure.pure value
  moments _ := []
  ends _ := rfl

/-- One computation after another, which is not reached after a fault. -/
protected def bind {α β : Type} (first : Watched α) (next : α → Watched β) : Watched β where
  run := first.run >>= fun value => (next value).run
  moments machine :=
    first.moments machine ++
      match first.run machine with
      | .ok value after => (next value).moments after
      | .error _ _ => []
  ends machine := by
    rw [Moment.last_append, first.ends]
    change _ = Run.final (EStateM.bind first.run (fun value => (next value).run) machine)
    unfold EStateM.bind
    cases first.run machine with
    | ok value after => exact (next value).ends after
    | error fault after => rfl

instance : Monad Watched where
  pure := Watched.pure
  bind := Watched.bind

/-- A computation as one step, which uses some values. -/
def step {α : Type} (inHand : List Value) (run : Run α) : Watched α where
  run := run
  moments machine := [⟨machine, inHand⟩, ⟨Run.final (run machine), []⟩]
  ends _ := rfl

/-- The state, which is looked at only. -/
def state : Watched Machine where
  run := get
  moments _ := []
  ends _ := rfl

/-- A computation between a change of the state and what undoes it. -/
def bracket {α : Type} (start finish : Machine → Machine) (body : Watched α) : Watched α where
  run := Run.bracket start finish body.run
  moments machine :=
    ⟨start machine, []⟩ :: body.moments (start machine) ++
      [⟨Run.final (Run.bracket start finish body.run machine), []⟩]
  ends machine := by
    rw [Moment.last_append]
    rfl

def holding {α : Type} (value : Value) (body : Watched α) : Watched α :=
  bracket (fun machine => { machine with temporaries := value :: machine.temporaries })
    (fun machine => { machine with temporaries := machine.temporaries.tail }) body

def within {α : Type} (frame : Frame) (body : Watched α) : Watched α :=
  bracket (fun machine => { machine with frames := frame :: machine.frames })
    (fun machine => { machine with frames := machine.frames.tail }) body

section Run

variable {α β : Type}

@[simp] theorem run_pure (value : α) : (pure value : Watched α).run = pure value := rfl

@[simp] theorem run_bind (first : Watched α) (next : α → Watched β) :
    (first >>= next).run = first.run >>= fun value => (next value).run := rfl

@[simp] theorem run_step (inHand : List Value) (run : Run α) : (step inHand run).run = run := rfl

@[simp] theorem run_state : state.run = get := rfl

@[simp] theorem run_holding (value : Value) (body : Watched α) :
    (holding value body).run = Run.holding value body.run := rfl

@[simp] theorem run_within (frame : Frame) (body : Watched α) :
    (within frame body).run = Run.within frame body.run := rfl

theorem mem_moments_first {first : Watched α} {next : α → Watched β} {machine : Machine}
    {moment : Moment} (hmoment : moment ∈ first.moments machine) :
    moment ∈ (first >>= next).moments machine :=
  List.mem_append_left _ hmoment

theorem mem_moments_next {first : Watched α} {next : α → Watched β} {machine after : Machine}
    {value : α} (hfirst : first.run machine = .ok value after) {moment : Moment}
    (hmoment : moment ∈ (next value).moments after) :
    moment ∈ (first >>= next).moments machine := by
  change moment ∈ first.moments machine ++ _
  rw [hfirst]
  exact List.mem_append_right _ hmoment

end Run

end Watched

namespace Evaluator

/-- How a function is called under watch. -/
abbrev WatchedCaller := Function → List Value → Option Span → Watched Value

/-- The calls themselves. -/
def WatchedCaller.run (call : WatchedCaller) : Caller := fun function arguments span =>
  (call function arguments span).run

namespace Watch

def callNamed (settings : Settings) (call : WatchedCaller) (span : Span) (name : String)
    (arguments : List Value) : Watched Value :=
  match Builtin.ofName? name with
  | some builtin => .step arguments do
    Run.withContext (← Run.lift span (builtin.call settings.registry name arguments))
  | none => do
    match (← Watched.state).functions.get? name with
    | some function => call function arguments (some span)
    | none => .step arguments (Run.fail (.undefinedFunction name) (some span))

mutual

def evaluate (settings : Settings) (call : WatchedCaller) : Expression → Watched Value
  | .literal _ value => return literal value
  | .variable span name => .step [] (readVariable span name)
  | .array _ items => do
    let values ← evaluateAll settings call items
    .step values (Run.alloc (.array values.toArray))
  | .table _ entries => do
    let values ← evaluateFields settings call entries
    .step (values.map Prod.snd) (Run.alloc (.table (.ofList values)))
  | .call span (.variable _ name) arguments => do
    let values ← evaluateAll settings call arguments
    callNamed settings call span name values
  | .call span (.member _ receiver name) arguments => do
    let value ← evaluate settings call receiver
    let values ← Watched.holding value (evaluateAll settings call arguments)
    .step (value :: values) do callMethod span (← object span name value) name values
  | .call span _ _ => .step [] (Run.fail .notCallable (some span))
  | .member span receiver name => do
    let value ← evaluate settings call receiver
    .step [value] do getMember span (← object span name value) name
  | .binary _ .and left right => do
    let first ← evaluate settings call left
    if ← .step [first] (truth left.span first) then
      let second ← evaluate settings call right
      return .boolean (← .step [second] (truth right.span second))
    else return .boolean false
  | .binary _ .or left right => do
    let first ← evaluate settings call left
    if ← .step [first] (truth left.span first) then return .boolean true
    else
      let second ← evaluate settings call right
      return .boolean (← .step [second] (truth right.span second))
  | .binary span operator left right => do
    let first ← evaluate settings call left
    let second ← Watched.holding first (evaluate settings call right)
    .step [first, second] (Run.lift span (Operator.binary operator first second))
  | .unary span operator operand => do
    let value ← evaluate settings call operand
    .step [value] (Run.lift span (Operator.unary operator value))

/-- Evaluates expressions from left to right, holding the values found so far. -/
def evaluateAll (settings : Settings) (call : WatchedCaller) :
    List Expression → Watched (List Value)
  | [] => return []
  | expression :: rest => do
    let value ← evaluate settings call expression
    let values ← Watched.holding value (evaluateAll settings call rest)
    return value :: values

/-- Evaluates named expressions from left to right, holding the values found so far. -/
def evaluateFields (settings : Settings) (call : WatchedCaller) :
    List (String × Expression) → Watched (List (String × Value))
  | [] => return []
  | (name, expression) :: rest => do
    let value ← evaluate settings call expression
    let values ← Watched.holding value (evaluateFields settings call rest)
    return (name, value) :: values

end

mutual

def execute (settings : Settings) (call : WatchedCaller) : Statement → Watched Flow
  | .library _ _ => return .next
  | .print _ values => do
    let values ← evaluateAll settings call values
    .step values (modify fun machine =>
      let line := " ".intercalate (values.map machine.display)
      { machine with context := machine.context.print line })
    return .next
  | .assign _ name value => do
    let value ← evaluate settings call value
    .step [value] (modify (·.assign name value))
    return .next
  | .assignMember span receiver name value => do
    let value ← evaluate settings call value
    let target ← Watched.holding value (evaluate settings call receiver)
    .step [target, value] do setMember span (← object span name target) name value
    return .next
  | .expression _ value => do
    let _ ← evaluate settings call value
    return .next
  | .conditional _ branches otherwise => do
    match ← executeBranches settings call branches with
    | some flow => return flow
    | none =>
      match otherwise with
      | some body => executeBlock settings call body
      | none => return .next
  | .function _ name parameters body _ => do
    .step [] (modify (·.declare ⟨name, parameters, body⟩))
    return .next
  | .return _ none => return .return .invalid
  | .return _ (some value) => return .return (← evaluate settings call value)
  | .component _ name base fields => do
    let values ← evaluateFields settings call fields
    .step (values.map Prod.snd) (Run.withContext fun context =>
      ((), { context with catalog := context.catalog.declare ⟨name, base, values⟩ }))
    return .next

/-- Executes the first branch whose condition holds, if there is one. -/
def executeBranches (settings : Settings) (call : WatchedCaller) :
    List (Expression × List Statement) → Watched (Option Flow)
  | [] => return none
  | (condition, body) :: rest => do
    let value ← evaluate settings call condition
    if ← .step [value] (truth condition.span value) then
      return some (← executeBlock settings call body)
    else executeBranches settings call rest

def executeBlock (settings : Settings) (call : WatchedCaller) : List Statement → Watched Flow
  | [] => return .next
  | statement :: rest => do
    match ← execute settings call statement with
    | .return value => return .return value
    | .next =>
      .step [] (collect settings)
      executeBlock settings call rest

end

/-- Calls a function where `depth` more calls may be nested. -/
def callWithin (settings : Settings) : Nat → WatchedCaller
  | 0, function, arguments, span => .step arguments (Run.fail (.stackOverflow function.name) span)
  | depth + 1, function, arguments, span => do
    if arguments.length ≠ function.parameters.length then
      .step arguments (Run.fail
        (.functionArity function.name function.parameters.length arguments.length) span)
    else
      let frame : Frame := .ofList (function.parameters.zip arguments)
      match ← Watched.within frame
        (executeBlock settings (callWithin settings depth) function.body) with
      | .return value => return value
      | .next => return .invalid

def callFunction (settings : Settings) : WatchedCaller := callWithin settings maxDepth

def addResult (value : Value) : Watched Unit := .step [value] (Evaluator.addResult value)

/-- Executes the top-level statements in order, each of which has a value; says whether the end was
reached. -/
def executeProgram (settings : Settings) : List Statement → Watched Bool
  | [] => return true
  | .expression _ expression :: rest => do
    addResult (← evaluate settings (callFunction settings) expression)
    .step [] (collect settings)
    executeProgram settings rest
  | statement :: rest => do
    match ← execute settings (callFunction settings) statement with
    | .return value =>
      addResult value
      return false
    | .next =>
      addResult .invalid
      .step [] (collect settings)
      executeProgram settings rest

/-- Calls the entry point, which may take the scope of the run as its argument. -/
def callEntry (settings : Settings) : Watched Unit := do
  let machine ← Watched.state
  match entryPoints.findSome? machine.functions.get? with
  | none => return
  | some function =>
    match function.parameters with
    | [] => addResult (← callFunction settings function [] none)
    | [_] => addResult (← callFunction settings function [.object machine.scope] none)
    | _ => .step [] (Run.fail (.entryArity function.name) none)

def runProgram (settings : Settings) (statements : List Statement) : Watched Unit := do
  .step [] (modify (hoist · statements))
  if ← executeProgram settings statements then callEntry settings

variable {settings : Settings} {call : WatchedCaller}

theorem run_callNamed (span : Span) (name : String) (arguments : List Value) :
    (callNamed settings call span name arguments).run =
      Evaluator.callNamed settings call.run span name arguments := by
  unfold callNamed Evaluator.callNamed
  cases Builtin.ofName? name with
  | some builtin => rfl
  | none =>
      refine congrArg (fun next => (get : Run Machine) >>= next) (funext fun machine => ?_)
      dsimp only
      cases machine.functions.get? name <;> rfl

theorem run_expressions :
    (∀ expression, (evaluate settings call expression).run =
      Evaluator.evaluate settings call.run expression) ∧
    (∀ fields, (evaluateFields settings call fields).run =
      Evaluator.evaluateFields settings call.run fields) ∧
    ∀ expressions, (evaluateAll settings call expressions).run =
      Evaluator.evaluateAll settings call.run expressions := by
  apply Evaluator.evaluate.mutual_induct <;> intros <;>
    simp only [evaluate, evaluateAll, evaluateFields, Evaluator.evaluate, Evaluator.evaluateAll,
      Evaluator.evaluateFields, Watched.run_bind, Watched.run_step, Watched.run_holding,
      Watched.run_pure, run_callNamed, apply_ite Watched.run, *]

theorem run_statements :
    (∀ statement, (execute settings call statement).run =
      Evaluator.execute settings call.run statement) ∧
    (∀ statements, (executeBlock settings call statements).run =
      Evaluator.executeBlock settings call.run statements) ∧
    ∀ branches, (executeBranches settings call branches).run =
      Evaluator.executeBranches settings call.run branches := by
  obtain ⟨hexpression, hfields, hexpressions⟩ := @run_expressions settings call
  apply Evaluator.execute.mutual_induct
  case case6 =>
    intro span branches otherwise hbranches hotherwise
    cases otherwise <;> simp only [execute, Evaluator.execute, Watched.run_bind, hbranches] <;>
      refine bind_congr fun flow => ?_ <;> cases flow
    · rfl
    · rfl
    · exact hotherwise
    · rfl
  case case14 =>
    intro statement rest hstatement hrest
    simp only [executeBlock, Evaluator.executeBlock, Watched.run_bind, hstatement]
    refine bind_congr fun flow => ?_
    cases flow with
    | next => simp only [Watched.run_bind, Watched.run_step, hrest]
    | _ => rfl
  all_goals
    intros
    simp only [execute, executeBlock, executeBranches, Evaluator.execute, Evaluator.executeBlock,
      Evaluator.executeBranches, Watched.run_bind, Watched.run_step, Watched.run_holding,
      Watched.run_pure, apply_ite Watched.run, bind_assoc, *]

theorem run_callWithin (depth : Nat) :
    (callWithin settings depth).run = Evaluator.callWithin settings depth := by
  -- a body calls with one level less
  induction depth with
  | zero => rfl
  | succ depth ih =>
      funext function arguments span
      have hblock := (@run_statements settings (callWithin settings depth)).2.1
      rw [ih] at hblock
      simp only [WatchedCaller.run, callWithin, Evaluator.callWithin, apply_ite Watched.run,
        Watched.run_step, Watched.run_bind, Watched.run_within, hblock]
      refine ite_congr rfl (fun _ => rfl) fun _ => bind_congr fun flow => ?_
      cases flow <;> rfl

theorem run_callFunction : (callFunction settings).run = Evaluator.callFunction settings :=
  run_callWithin maxDepth

theorem run_executeProgram (statements : List Statement) :
    (executeProgram settings statements).run = Evaluator.executeProgram settings statements := by
  have hexpression := (@run_expressions settings (callFunction settings)).1
  have hstatement := (@run_statements settings (callFunction settings)).1
  rw [run_callFunction] at hexpression hstatement
  induction statements using Evaluator.executeProgram.induct with
  | case1 => rfl
  | case2 span expression rest ih =>
      simp only [executeProgram, Evaluator.executeProgram, Watched.run_bind, Watched.run_step,
        addResult, hexpression, ih]
  | case3 statement rest hother ih =>
      simp only [executeProgram, Evaluator.executeProgram, Watched.run_bind, hstatement]
      refine bind_congr fun flow => ?_
      cases flow with
      | next => simp only [Watched.run_bind, Watched.run_step, addResult, ih]
      | _ => rfl

theorem run_callEntry : (callEntry settings).run = Evaluator.callEntry settings := by
  unfold callEntry Evaluator.callEntry
  rw [Watched.run_bind, Watched.run_state]
  refine bind_congr fun machine => ?_
  cases entryPoints.findSome? machine.functions.get? with
  | none => rfl
  | some function =>
      dsimp only
      rw [← run_callFunction]
      generalize function.parameters = parameters
      rcases parameters with _ | ⟨parameter, _ | ⟨other, rest⟩⟩ <;> rfl

theorem run_runProgram (statements : List Statement) :
    (runProgram settings statements).run = Evaluator.runProgram settings statements := by
  simp only [runProgram, Evaluator.runProgram, Watched.run_bind, Watched.run_step,
    run_executeProgram, apply_ite Watched.run, run_callEntry, Watched.run_pure]

end Watch

end Evaluator

end BrightScript
