import BrightScript.Proofs.Attempt
import BrightScript.Proofs.Evaluator.Watched
import BrightScript.Proofs.Scene.Links
import Mathlib.Logic.Relation

namespace BrightScript

/-- What a built-in function does: it makes a component, it writes a file, or it only gives a
value. -/
inductive Builtin.Outcome (registry : Registry) (arguments : List Value) : Builtin.Action → Prop
  | create (kind : String) :
      Outcome registry arguments (RunContext.timed (Builtin.create registry kind arguments.tail))
  | write (path contents : String) : Outcome registry arguments (Builtin.write path contents)
  | give {action : Builtin.Action} (hgive : ∀ context, (action context).2 = context) :
      Outcome registry arguments action

theorem Builtin.outcome_of_call {registry : Registry} {name : String} {arguments : List Value}
    {function : Builtin} {action : Action}
    (haction : function.call registry name arguments = .ok action) :
    Outcome registry arguments action := by
  cases function with
  | createObject =>
      obtain ⟨kind, -, haction⟩ := bind_eq_ok_iff.mp haction
      obtain rfl := Except.ok.inj haction
      exact .create kind
  | type =>
      obtain ⟨_, -, haction⟩ := bind_eq_ok_iff.mp haction
      obtain rfl := Except.ok.inj haction
      exact .give fun _ => rfl
  | upper | lower | length | textNumber =>
      obtain ⟨_, -, haction⟩ := bind_eq_ok_iff.mp haction
      obtain ⟨value, -, haction⟩ := bind_eq_ok_iff.mp haction
      obtain rfl := Except.ok.inj haction
      exact .give fun _ => rfl
  | numberText =>
      obtain ⟨_, -, haction⟩ := bind_eq_ok_iff.mp haction
      dsimp only at haction
      split at haction
      · obtain rfl := Except.ok.inj haction
        exact .give fun _ => rfl
      · cases haction
  | readFile =>
      obtain ⟨_, -, haction⟩ := bind_eq_ok_iff.mp haction
      obtain ⟨path, -, haction⟩ := bind_eq_ok_iff.mp haction
      obtain rfl := Except.ok.inj haction
      refine .give fun context => ?_
      unfold read
      split <;> rfl
  | writeFile =>
      obtain ⟨_, -, haction⟩ := bind_eq_ok_iff.mp haction
      obtain ⟨path, -, haction⟩ := bind_eq_ok_iff.mp haction
      obtain ⟨contents, -, haction⟩ := bind_eq_ok_iff.mp haction
      obtain rfl := Except.ok.inj haction
      exact .write path contents

variable {settings : Settings} {α β : Type}

/-- One step of a program, as far as it shows outside of its variables. -/
inductive RunContext.Step (settings : Settings) : RunContext → RunContext → Prop
  | alloc (context : RunContext) {component : Component} (hleaf : component.links? = none) :
      Step settings context (context.alloc component).2
  | call (context : RunContext) (receiver : Handle) (name : String) (arguments : List Value) :
      Step settings context (timed (Evaluator.callOn receiver name arguments) context).2
  | write (context : RunContext) (receiver : Handle) (name : String) (value : Value) :
      Step settings context (Evaluator.writeOn receiver name value context).2
  | builtin (context : RunContext) {name : String} {arguments : List Value} {function : Builtin}
      {action : Builtin.Action}
      (haction : function.call settings.registry name arguments = .ok action) :
      Step settings context (action context).2
  | print (context : RunContext) (line : String) : Step settings context (context.print line)
  | collect (context : RunContext) (roots : List Handle) :
      Step settings context { context with heap := context.heap.collect roots }
  | declare (context : RunContext) (definition : NodeDefinition) :
      Step settings context { context with catalog := context.catalog.declare definition }

/-- Any number of steps of a program. -/
abbrev RunContext.Steps (settings : Settings) : RunContext → RunContext → Prop :=
  Relation.ReflTransGen (RunContext.Step settings)

/-- What a computation may do with the variables of the innermost call. -/
inductive Access where
  | read
  | assign

/-- A computation is put together from what expressions can do, and also from assignments to
variables if it may assign. -/
inductive Run.Composed (settings : Settings) : Access → {α : Type} → Run α → Prop
  | pure {α : Type} {access : Access} (value : α) : Composed settings access (Pure.pure value)
  | fail {α : Type} {access : Access} (error : RuntimeError) (span : Option Span) :
      Composed settings access (Run.fail error span : Run α)
  /-- The state may be looked at, but for the variables. -/
  | look {α : Type} {access : Access} {next : Machine → Run α}
      (hnext : ∀ machine, Composed settings access (next machine))
      (hframes : ∀ machine frames, next { machine with frames := frames } = next machine) :
      Composed settings access (get >>= next)
  | readVariable {access : Access} (span : Span) (name : String) :
      Composed settings access (Evaluator.readVariable span name)
  | assign (name : String) (value : Value) :
      Composed settings .assign (modify fun machine => machine.assign name value)
  | declare {access : Access} (function : Function) :
      Composed settings access (modify fun machine => machine.declare function)
  | collect {access : Access} : Composed settings access (Evaluator.collect settings)
  | withContext {α : Type} {access : Access} {change : RunContext → α × RunContext}
      (hchange : ∀ context : RunContext, context.Step settings (change context).2) :
      Composed settings access (Run.withContext change)
  | bind {α β : Type} {access : Access} {first : Run α} {next : α → Run β}
      (hfirst : Composed settings access first)
      (hnext : ∀ value, Composed settings access (next value)) :
      Composed settings access (first >>= next)
  | holding {α : Type} {access : Access} (value : Value) {body : Run α}
      (hbody : Composed settings access body) :
      Composed settings access (Run.holding value body)
  /-- A call has variables of its own, to which it may assign. -/
  | within {α : Type} {access : Access} (frame : Frame) {body : Run α}
      (hbody : Composed settings .assign body) :
      Composed settings access (Run.within frame body)

/-- A computation does nothing but steps of a program. -/
def Run.Steps (settings : Settings) (run : Run α) : Prop :=
  ∀ machine : Machine, machine.context.Steps settings (Run.final (run machine)).context

namespace Run.Steps

theorem pure (value : α) : Steps settings (pure value) := fun _ => .refl

theorem get : Steps settings get := fun _ => .refl

theorem fail (error : RuntimeError) (span : Option Span) :
    Steps settings (Run.fail error span : Run α) :=
  fun _ => .refl

theorem withContext {change : RunContext → α × RunContext}
    (hchange : ∀ context : RunContext, context.Step settings (change context).2) :
    Steps settings (Run.withContext change) :=
  fun machine => .single (hchange machine.context)

theorem modify {change : Machine → Machine}
    (hchange : ∀ machine : Machine, machine.context.Steps settings (change machine).context) :
    Steps settings (modify change) :=
  hchange

theorem collect : (Evaluator.collect settings).Steps settings := by
  refine modify fun machine => ?_
  unfold Machine.collect
  split
  · exact .refl
  · split
    · exact .single (.collect machine.context machine.roots)
    · exact .refl

theorem bind {first : Run α} {next : α → Run β} (hfirst : first.Steps settings)
    (hnext : ∀ value, (next value).Steps settings) : (first >>= next).Steps settings := by
  intro machine
  have hsteps := hfirst machine
  change machine.context.Steps settings (Run.final (EStateM.bind first next machine)).context
  unfold EStateM.bind
  cases hrun : first machine with
  | ok value after =>
      rw [hrun] at hsteps
      exact hsteps.trans (hnext value after)
  | error fault after =>
      rw [hrun] at hsteps
      exact hsteps

theorem bracket {start finish : Machine → Machine} {body : Run α}
    (hstart : ∀ machine, (start machine).context = machine.context)
    (hfinish : ∀ machine, (finish machine).context = machine.context)
    (hbody : body.Steps settings) : (Run.bracket start finish body).Steps settings := by
  intro machine
  have hsteps := hbody (start machine)
  rw [hstart] at hsteps
  unfold Run.bracket
  cases hrun : body (start machine) with
  | ok value after =>
      rw [hrun] at hsteps
      exact (hfinish after).symm ▸ hsteps
  | error fault after =>
      rw [hrun] at hsteps
      exact (hfinish after).symm ▸ hsteps

end Run.Steps

namespace Run.Composed

variable {access : Access}

theorem steps {run : Run α} (hrun : run.Composed settings access) : run.Steps settings := by
  induction hrun with
  | pure value => exact .pure value
  | fail error span => exact .fail error span
  | look hnext hframes ih => exact .bind .get ih
  | readVariable span name =>
      refine .bind .get fun machine => ?_
      split
      · exact .pure _
      · split
        · exact .fail _ _
        · exact .fail _ _
  | assign name value =>
      refine .modify fun machine => ?_
      unfold Machine.assign
      split
      · exact .refl
      · exact .refl
  | declare function => exact .modify fun _ => .refl
  | collect => exact .collect
  | withContext hchange => exact .withContext hchange
  | bind hfirst hnext ihfirst ihnext => exact ihfirst.bind ihnext
  | holding value hbody ih => exact .bracket (fun _ => rfl) (fun _ => rfl) ih
  | within frame hbody ih => exact .bracket (fun _ => rfl) (fun _ => rfl) ih

theorem lift (span : Span) (result : Except RuntimeError α) :
    Composed settings access (Run.lift span result) := by
  cases result with
  | ok value => exact pure value
  | error error => exact fail error _

theorem lift_bind {span : Span} {result : Except RuntimeError α} {next : α → Run β}
    (hnext : ∀ value, result = .ok value → (next value).Composed settings access) :
    (Run.lift span result >>= next).Composed settings access := by
  cases result with
  | ok value => exact hnext value rfl
  | error error => exact fail error _

end Run.Composed

/-- What belongs to the run gets from each moment of a computation to all later ones in steps of a
program, from the state before it to the one after it. -/
def Watched.Steps (settings : Settings) (computation : Watched α) : Prop :=
  ∀ machine : Machine, (machine.context :: computation.contexts machine ++
    [(Run.final (computation.run machine)).context]).Pairwise (RunContext.Steps settings)

/-- A computation under watch is put together in the same way, out of steps. -/
inductive Watched.Composed (settings : Settings) : Access → {α : Type} → Watched α → Prop
  | pure {α : Type} {access : Access} (value : α) : Composed settings access (Pure.pure value)
  | step {α : Type} {access : Access} (inHand : List Value) {run : Run α}
      (hrun : run.Composed settings access) : Composed settings access (Watched.step inHand run)
  | look {α : Type} {access : Access} {next : Machine → Watched α}
      (hnext : ∀ machine, Composed settings access (next machine))
      (hframes : ∀ machine frames, next { machine with frames := frames } = next machine) :
      Composed settings access (Watched.state >>= next)
  | bind {α β : Type} {access : Access} {first : Watched α} {next : α → Watched β}
      (hfirst : Composed settings access first)
      (hnext : ∀ value, Composed settings access (next value)) :
      Composed settings access (first >>= next)
  | holding {α : Type} {access : Access} (value : Value) {body : Watched α}
      (hbody : Composed settings access body) :
      Composed settings access (Watched.holding value body)
  | within {α : Type} {access : Access} (frame : Frame) {body : Watched α}
      (hbody : Composed settings .assign body) :
      Composed settings access (Watched.within frame body)

namespace Watched.Steps

theorem final {computation : Watched α} (hsteps : computation.Steps settings) :
    computation.run.Steps settings := fun machine =>
  (List.pairwise_cons.mp (hsteps machine)).1 _ (List.mem_append_right _ List.mem_cons_self)

theorem pure (value : α) : Steps settings (Pure.pure value) :=
  fun _ => List.pairwise_pair.mpr .refl

theorem step (inHand : List Value) {run : Run α} (hrun : run.Steps settings) :
    (Watched.step inHand run).Steps settings := by
  intro machine
  change [machine.context, machine.context, (Run.final (run machine)).context,
    (Run.final (run machine)).context].Pairwise _
  simp only [List.pairwise_cons_cons_iff_of_trans]
  exact ⟨.refl, hrun machine, .refl, List.pairwise_singleton _ _⟩

theorem state : Watched.state.Steps settings := fun _ => List.pairwise_pair.mpr .refl

theorem bind {first : Watched α} {next : α → Watched β} (hfirst : first.Steps settings)
    (hnext : ∀ value, (next value).Steps settings) : (first >>= next).Steps settings := by
  intro machine
  have hbefore := hfirst machine
  change (_ :: List.map _ (first.moments machine ++ _) ++
    [(Run.final (EStateM.bind first.run (fun value => (next value).run) machine)).context]).Pairwise
      _
  unfold EStateM.bind
  cases hrun : first.run machine with
  | error fault after =>
      rw [hrun] at hbefore
      rwa [List.append_nil]
  | ok value after =>
      rw [hrun] at hbefore
      obtain ⟨hearlier, -, hend⟩ := List.pairwise_append.mp hbefore
      obtain ⟨hstart, hlater⟩ := List.pairwise_cons.mp (hnext value after)
      rw [List.map_append, ← List.cons_append, List.append_assoc]
      refine List.pairwise_append.mpr ⟨hearlier, hlater, fun context hcontext other hother => ?_⟩
      exact (hend context hcontext _ List.mem_cons_self).trans (hstart other hother)

theorem bracket {start finish : Machine → Machine} {body : Watched α}
    (hstart : ∀ machine, (start machine).context = machine.context)
    (hfinish : ∀ machine, (finish machine).context = machine.context)
    (hbody : body.Steps settings) : (Watched.bracket start finish body).Steps settings := by
  intro machine
  have hinside := hbody (start machine)
  set ended := Run.final ((Watched.bracket start finish body).run machine)
  have hfinal : ended.context = (Run.final (body.run (start machine))).context := by
    change (Run.final (Run.bracket start finish body.run machine)).context = _
    unfold Run.bracket
    cases body.run (start machine) with
    | ok value after => exact hfinish after
    | error fault after => exact hfinish after
  change (machine.context :: List.map _ (_ :: body.moments (start machine) ++ [⟨ended, []⟩]) ++
    [ended.context]).Pairwise _
  rw [List.map_append, List.map_cons, List.map_singleton, hfinal, ← hstart machine]
  refine .cons_cons_of_trans .refl (List.pairwise_append.mpr
    ⟨hinside, List.pairwise_singleton _ _, fun context hcontext => ?_⟩)
  refine List.forall_mem_singleton.mpr ?_
  rcases List.mem_append.mp hcontext with hbefore | hlast
  · exact (List.pairwise_append.mp hinside).2.2 context hbefore _ List.mem_cons_self
  · rw [List.mem_singleton.mp hlast]

end Watched.Steps

namespace Watched.Composed

variable {access : Access}

theorem run {computation : Watched α} (hcomputation : computation.Composed settings access) :
    computation.run.Composed settings access := by
  induction hcomputation with
  | pure value => exact .pure value
  | step inHand hrun => exact hrun
  | look hnext hframes ih =>
      exact .look ih fun machine frames => congrArg Watched.run (hframes machine frames)
  | bind hfirst hnext ihfirst ihnext => exact ihfirst.bind ihnext
  | holding value hbody ih => exact ih.holding value
  | within frame hbody ih => exact ih.within frame

theorem steps {computation : Watched α} (hcomputation : computation.Composed settings access) :
    computation.Steps settings := by
  induction hcomputation with
  | pure value => exact .pure value
  | step inHand hrun => exact .step inHand hrun.steps
  | look hnext hframes ih => exact .bind .state ih
  | bind hfirst hnext ihfirst ihnext => exact ihfirst.bind ihnext
  | holding value hbody ih => exact .bracket (fun _ => rfl) (fun _ => rfl) ih
  | within frame hbody ih => exact .bracket (fun _ => rfl) (fun _ => rfl) ih

end Watched.Composed

namespace Evaluator

variable {access : Access}

theorem composed_alloc {component : Component} (hleaf : component.links? = none) :
    (Run.alloc component).Composed settings access :=
  .bind (.withContext fun context => .alloc context hleaf) fun _ => .pure _

theorem composed_object (span : Span) (name : String) (value : Value) :
    (object span name value).Composed settings access := by
  cases value with
  | object handle => exact .pure _
  | _ => exact .fail _ _

theorem composed_truth (span : Span) (value : Value) :
    (truth span value).Composed settings access := by
  cases value with
  | boolean value => exact .pure _
  | _ => exact .fail _ _

theorem composed_callMethod (span : Span) (receiver : Handle) (name : String)
    (arguments : List Value) :
    (callMethod span receiver name arguments).Composed settings access :=
  .bind (.withContext fun context => .call context receiver name arguments) fun _ =>
    .lift _ _

theorem composed_getMember (span : Span) (handle : Handle) (name : String) :
    (getMember span handle name).Composed settings access :=
  .look (fun _ => .lift _ _) fun _ _ => rfl

theorem composed_setMember (span : Span) (handle : Handle) (name : String) (value : Value) :
    (setMember span handle name value).Composed settings access :=
  .bind (.withContext fun context => .write context handle name value) fun _ => .lift _ _

theorem composed_print (values : List Value) :
    Run.Composed settings access (modify fun machine =>
      let line := " ".intercalate (values.map machine.display)
      { machine with context := machine.context.print line }) :=
  -- What a value is displayed as depends on the components only.
  show Run.Composed settings access (Run.withContext fun context => ((), context.print
    (" ".intercalate (values.map (Machine.display { context := context, scope := default })))))
  from .withContext fun context => .print context _

/-- Calls assign to no variables but those of their own. -/
def Caller.Composed (settings : Settings) (call : Caller) : Prop :=
  ∀ access function arguments span, (call function arguments span).Composed settings access

/-- Calls under watch assign to no variables but those of their own. -/
def WatchedCaller.Composed (settings : Settings) (call : WatchedCaller) : Prop :=
  ∀ access function arguments span, (call function arguments span).Composed settings access

namespace Watch

variable {call : WatchedCaller}

theorem composed_truth (span : Span) (value : Value) :
    (Watched.step [value] (truth span value)).Composed settings access :=
  .step _ (Evaluator.composed_truth span value)

/-- Both operands are evaluated where the operator does not decide by the first. -/
theorem composed_strict {span : Span} {operator : BinaryOperator} {left right : Expression}
    (hand : operator ≠ .and) (hor : operator ≠ .or)
    (hleft : (evaluate settings call left).Composed settings access)
    (hright : (evaluate settings call right).Composed settings access) :
    (evaluate settings call (.binary span operator left right)).Composed settings access := by
  rw [evaluate]
  · exact hleft.bind fun first => (hright.holding first).bind fun second => .step _ (.lift _ _)
  all_goals assumption

theorem composed_notCallable {span : Span} {callee : Expression} {arguments : List Expression}
    (hvariable : ∀ span name, callee ≠ .variable span name)
    (hmember : ∀ span receiver name, callee ≠ .member span receiver name) :
    (evaluate settings call (.call span callee arguments)).Composed settings access := by
  rw [evaluate]
  · exact .step _ (.fail _ _)
  all_goals assumption

theorem composed_callNamed (hcall : call.Composed settings) (span : Span) (name : String)
    (arguments : List Value) :
    (callNamed settings call span name arguments).Composed settings access := by
  unfold callNamed
  cases Builtin.ofName? name with
  | some function =>
      exact .step _ (.lift_bind fun action haction =>
        .withContext fun context => .builtin context haction)
  | none =>
      refine .look (fun machine => ?_) fun _ _ => rfl
      cases machine.functions.get? name with
      | some function => exact hcall access function arguments (some span)
      | none => exact .step _ (.fail _ _)

mutual

theorem composed_evaluate (hcall : call.Composed settings) : ∀ expression : Expression,
    (evaluate settings call expression).Composed settings access
  | .literal _ value => by
      rw [evaluate]
      exact .pure _
  | .variable span name => by
      rw [evaluate]
      exact .step _ (.readVariable span name)
  | .array _ items => by
      rw [evaluate]
      exact (composed_evaluateAll hcall items).bind fun values => .step _ (composed_alloc rfl)
  | .table _ entries => by
      rw [evaluate]
      exact (composed_evaluateFields hcall entries).bind fun values => .step _ (composed_alloc rfl)
  | .call span (.variable _ name) arguments => by
      rw [evaluate]
      refine (composed_evaluateAll hcall arguments).bind fun values => ?_
      exact composed_callNamed hcall span name values
  | .call span (.member _ receiver name) arguments => by
      rw [evaluate]
      refine (composed_evaluate hcall receiver).bind fun value => ?_
      refine ((composed_evaluateAll hcall arguments).holding value).bind fun values => ?_
      exact .step _ ((composed_object span name value).bind fun _ => composed_callMethod _ _ _ _)
  | .call span (.literal ..) arguments => composed_notCallable (by simp) (by simp)
  | .call span (.array ..) arguments => composed_notCallable (by simp) (by simp)
  | .call span (.table ..) arguments => composed_notCallable (by simp) (by simp)
  | .call span (.call ..) arguments => composed_notCallable (by simp) (by simp)
  | .call span (.binary ..) arguments => composed_notCallable (by simp) (by simp)
  | .call span (.unary ..) arguments => composed_notCallable (by simp) (by simp)
  | .member span receiver name => by
      rw [evaluate]
      refine (composed_evaluate hcall receiver).bind fun value => ?_
      exact .step _ ((composed_object span name value).bind fun _ => composed_getMember _ _ _)
  | .binary span operator left right => by
      have hleft := composed_evaluate hcall left
      have hright := composed_evaluate hcall right
      by_cases hand : operator = .and
      · rw [hand, evaluate]
        refine hleft.bind fun first => (composed_truth _ first).bind fun holds => ?_
        cases holds with
        | true => exact hright.bind fun second => (composed_truth _ second).bind fun _ => .pure _
        | false => exact .pure _
      by_cases hor : operator = .or
      · rw [hor, evaluate]
        refine hleft.bind fun first => (composed_truth _ first).bind fun holds => ?_
        cases holds with
        | true => exact .pure _
        | false => exact hright.bind fun second => (composed_truth _ second).bind fun _ => .pure _
      · exact composed_strict hand hor hleft hright
  | .unary span operator operand => by
      rw [evaluate]
      exact (composed_evaluate hcall operand).bind fun value => .step _ (.lift _ _)

theorem composed_evaluateAll (hcall : call.Composed settings) : ∀ expressions : List Expression,
    (evaluateAll settings call expressions).Composed settings access
  | [] => by
      rw [evaluateAll]
      exact .pure _
  | expression :: rest => by
      rw [evaluateAll]
      refine (composed_evaluate hcall expression).bind fun value => ?_
      exact ((composed_evaluateAll hcall rest).holding value).bind fun _ => .pure _

theorem composed_evaluateFields (hcall : call.Composed settings) :
    ∀ fields : List (String × Expression),
    (evaluateFields settings call fields).Composed settings access
  | [] => by
      rw [evaluateFields]
      exact .pure _
  | (name, expression) :: rest => by
      rw [evaluateFields]
      refine (composed_evaluate hcall expression).bind fun value => ?_
      exact ((composed_evaluateFields hcall rest).holding value).bind fun _ => .pure _

end

mutual

theorem composed_execute (hcall : call.Composed settings) : ∀ statement : Statement,
    (execute settings call statement).Composed settings .assign
  | .library _ _ => by
      rw [execute]
      exact .pure _
  | .print _ values => by
      rw [execute]
      refine (composed_evaluateAll hcall values).bind fun values => ?_
      exact .bind (.step _ (composed_print values)) fun _ => .pure _
  | .assign _ name value => by
      rw [execute]
      refine (composed_evaluate hcall value).bind fun value => ?_
      exact .bind (.step _ (.assign name value)) fun _ => .pure _
  | .assignMember span receiver name value => by
      rw [execute]
      refine (composed_evaluate hcall value).bind fun value => ?_
      refine ((composed_evaluate hcall receiver).holding value).bind fun target => ?_
      refine .bind (.step _ ?_) fun _ => .pure _
      exact (composed_object span name target).bind fun _ => composed_setMember _ _ _ _
  | .expression _ value => by
      rw [execute]
      exact (composed_evaluate hcall value).bind fun _ => .pure _
  | .conditional _ branches none => by
      rw [execute]
      refine (composed_executeBranches hcall branches).bind fun flow => ?_
      cases flow <;> exact .pure _
  | .conditional _ branches (some body) => by
      rw [execute]
      refine (composed_executeBranches hcall branches).bind fun flow => ?_
      cases flow with
      | some flow => exact .pure _
      | none => exact composed_executeBlock hcall body
  | .function _ name parameters body _ => by
      rw [execute]
      exact .bind (.step _ (.declare _)) fun _ => .pure _
  | .return _ none => by
      rw [execute]
      exact .pure _
  | .return _ (some value) => by
      rw [execute]
      exact (composed_evaluate hcall value).bind fun _ => .pure _
  | .component _ name base fields => by
      rw [execute]
      refine (composed_evaluateFields hcall fields).bind fun values => ?_
      exact .bind (.step _ (.withContext fun context => .declare context _)) fun _ => .pure _

theorem composed_executeBranches (hcall : call.Composed settings) :
    ∀ branches : List (Expression × List Statement),
    (executeBranches settings call branches).Composed settings .assign
  | [] => by
      rw [executeBranches]
      exact .pure _
  | (condition, body) :: rest => by
      rw [executeBranches]
      refine (composed_evaluate hcall condition).bind fun value => ?_
      refine (composed_truth _ value).bind fun holds => ?_
      cases holds with
      | true => exact (composed_executeBlock hcall body).bind fun _ => .pure _
      | false => exact composed_executeBranches hcall rest

theorem composed_executeBlock (hcall : call.Composed settings) : ∀ statements : List Statement,
    (executeBlock settings call statements).Composed settings .assign
  | [] => by
      rw [executeBlock]
      exact .pure _
  | statement :: rest => by
      rw [executeBlock]
      refine (composed_execute hcall statement).bind fun flow => ?_
      cases flow with
      | «return» value => exact .pure _
      | next => exact .bind (.step _ .collect) fun _ => composed_executeBlock hcall rest

end

theorem composed_callWithin (settings : Settings) (depth : Nat) :
    (callWithin settings depth).Composed settings := by
  induction depth with
  | zero => exact fun access function arguments span => .step _ (.fail _ _)
  | succ depth ih =>
      intro access function arguments span
      rw [callWithin]
      split
      · exact .step _ (.fail _ _)
      · refine .bind (.within _ (composed_executeBlock ih function.body)) fun flow => ?_
        cases flow <;> exact .pure _

theorem composed_callFunction : (callFunction settings).Composed settings :=
  composed_callWithin settings maxDepth

theorem steps_callFunction (function : Function) (arguments : List Value) (span : Option Span) :
    (callFunction settings function arguments span).Steps settings :=
  (composed_callFunction .read function arguments span).steps

theorem steps_addResult (value : Value) : (addResult value).Steps settings :=
  .step _ (.modify fun _ => .refl)

theorem steps_executeProgram (statements : List Statement) :
    (executeProgram settings statements).Steps settings := by
  induction statements using executeProgram.induct with
  | case1 => exact .pure _
  | case2 span expression rest ih =>
      rw [executeProgram]
      have hvalue : Watched.Composed settings .read
          (evaluate settings (callFunction settings) expression) :=
        composed_evaluate composed_callFunction expression
      refine hvalue.steps.bind fun value => ?_
      exact (steps_addResult value).bind fun _ => .bind (.step _ .collect) fun _ => ih
  | case3 statement rest hother ih =>
      rw [executeProgram]
      · refine (composed_execute composed_callFunction statement).steps.bind fun flow => ?_
        cases flow with
        | «return» value => exact (steps_addResult value).bind fun _ => .pure _
        | next => exact (steps_addResult _).bind fun _ => .bind (.step _ .collect) fun _ => ih
      · exact hother

theorem steps_callEntry : (callEntry settings).Steps settings := by
  refine .bind .state fun machine => ?_
  split
  · exact .pure _
  · split
    · exact (steps_callFunction _ _ _).bind fun value => steps_addResult value
    · exact (steps_callFunction _ _ _).bind fun value => steps_addResult value
    · exact .step _ (.fail _ _)

/-- A whole run is a sequence of steps, which leads through all its moments. -/
theorem steps_runProgram (settings : Settings) (statements : List Statement) :
    (runProgram settings statements).Steps settings := by
  refine .bind (.step _ (.modify fun machine => ?_)) fun _ => ?_
  · rw [context_hoist]
  · refine (steps_executeProgram statements).bind fun reached => ?_
    split
    · exact steps_callEntry
    · exact .pure _

end Watch

section Syntax

variable {call : Caller}

/-- Calls under watch, each of which is one step. -/
def Caller.watched (call : Caller) : WatchedCaller :=
  fun function arguments span => .step arguments (call function arguments span)

theorem Caller.Composed.watched (hcall : call.Composed settings) :
    call.watched.Composed settings :=
  fun access function arguments span => .step _ (hcall access function arguments span)

theorem composed_evaluate (hcall : call.Composed settings) (expression : Expression) :
    (evaluate settings call expression).Composed settings access := by
  have hwatched : Watched.Composed settings access (Watch.evaluate settings _ expression) :=
    Watch.composed_evaluate hcall.watched expression
  have hrun := hwatched.run
  rw [Watch.run_expressions.1] at hrun
  exact hrun

theorem composed_evaluateAll (hcall : call.Composed settings) (expressions : List Expression) :
    (evaluateAll settings call expressions).Composed settings access := by
  have hwatched : Watched.Composed settings access (Watch.evaluateAll settings _ expressions) :=
    Watch.composed_evaluateAll hcall.watched expressions
  have hrun := hwatched.run
  rw [Watch.run_expressions.2.2] at hrun
  exact hrun

theorem composed_execute (hcall : call.Composed settings) (statement : Statement) :
    (execute settings call statement).Composed settings .assign := by
  have hrun := (Watch.composed_execute hcall.watched statement).run
  rw [Watch.run_statements.1] at hrun
  exact hrun

theorem composed_executeBlock (hcall : call.Composed settings) (statements : List Statement) :
    (executeBlock settings call statements).Composed settings .assign := by
  have hrun := (Watch.composed_executeBlock hcall.watched statements).run
  rw [Watch.run_statements.2.1] at hrun
  exact hrun

end Syntax

theorem composed_callWithin (settings : Settings) (depth : Nat) :
    (callWithin settings depth).Composed settings :=
  Watch.run_callWithin depth ▸ fun access function arguments span =>
    (Watch.composed_callWithin settings depth access function arguments span).run

theorem steps_runProgram (settings : Settings) (statements : List Statement) :
    (runProgram settings statements).Steps settings :=
  Watch.run_runProgram statements ▸ (Watch.steps_runProgram settings statements).final

end Evaluator

end BrightScript
