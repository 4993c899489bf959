import BrightScript.Proofs.Renaming.Step
import BrightScript.Proofs.Renaming.Watched

namespace BrightScript.Evaluator

/-- Calls do the same on a machine and on its mirror. -/
def WatchedCaller.Agrees (call call' : WatchedCaller) : Prop :=
  ∀ ⦃π : Equiv.Perm Handle⦄ ⦃machine mirror : Machine⦄, machine.Mirrors π mirror →
    ∀ (function : Function) {arguments arguments' : List Value} (span : Option Span),
      SameValues π machine.context.heap arguments arguments' →
      Watched.Agrees SameValue machine mirror (call function arguments span)
        (call' function arguments' span)

/-- The settings of a machine that collects garbage at any time, and of a mirror that never does. -/
structure Paired (settings settings' : Settings) : Prop where
  registry : settings.registry = .builtin
  registry' : settings'.registry = .builtin
  never : settings'.threshold = none

namespace Watch

variable {π : Equiv.Perm Handle} {machine mirror : Machine} {settings settings' : Settings}
  {call call' : WatchedCaller}

theorem agrees_callNamed (hsettings : Paired settings settings') (hcall : call.Agrees call')
    (hmachine : machine.Mirrors π mirror) (span : Span) (name : String)
    {arguments arguments' : List Value}
    (harguments : SameValues π machine.context.heap arguments arguments') :
    Watched.Agrees SameValue machine mirror (callNamed settings call span name arguments)
      (callNamed settings' call' span name arguments') := by
  unfold callNamed
  cases Builtin.ofName? name with
  | some builtin =>
      rw [hsettings.registry, hsettings.registry']
      exact .step hmachine harguments (agrees_builtin hmachine span builtin name harguments)
  | none =>
      refine .state_bind ?_
      rw [hmachine.functions]
      cases machine.functions.get? name with
      | some function => exact hcall hmachine function (some span) harguments
      | none => exact .step hmachine harguments (.fail hmachine (by simp [RuntimeError.Ordinary]) _)

theorem agrees_truth (hmachine : machine.Mirrors π mirror) (span : Span) {value value' : Value}
    (hvalue : SameValue π machine.context.heap value value') :
    Watched.Agrees (fun _ _ => Eq) machine mirror (.step [value] (truth span value))
      (.step [value'] (truth span value')) :=
  .step hmachine hvalue.single (Evaluator.agrees_truth hmachine span hvalue)

theorem alike_condition {first second : Watched Value}
    (hfirst : Watched.Alike SameValue first second) (span : Span) :
    Watched.Alike SameValue
      (do
        let value ← first
        return .boolean (← .step [value] (truth span value)))
      (do
        let value ← second
        return .boolean (← .step [value] (truth span value))) := by
  refine hfirst.bind fun hafter hvalue => ?_
  refine (agrees_truth hafter span hvalue).bind ?_
  rintro σ after after' value _ hafter rfl
  exact .pure hafter ⟨rfl, Heap.holds_boolean⟩

theorem alike_expressions (hsettings : Paired settings settings') (hcall : call.Agrees call') :
    (∀ expression, Watched.Alike SameValue (evaluate settings call expression)
      (evaluate settings' call' expression)) ∧
    (∀ fields, Watched.Alike SameFields (evaluateFields settings call fields)
      (evaluateFields settings' call' fields)) ∧
    ∀ expressions, Watched.Alike SameValues (evaluateAll settings call expressions)
      (evaluateAll settings' call' expressions) := by
  refine evaluate.mutual_induct _ _ _ ?literal ?read ?array ?table ?callNamed ?callMethod
    ?notCallable ?member ?conjunction ?disjunction ?binary ?unary ?nil ?cons ?nilFields
    ?consFields
  case literal =>
    intro span value π machine mirror hmachine
    simp only [evaluate]
    refine .pure hmachine ?_
    cases value <;> exact ⟨rfl, by simp [literal]⟩
  case read =>
    intro span name π machine mirror hmachine
    simp only [evaluate]
    exact .step hmachine .nil (agrees_readVariable hmachine span name)
  case array =>
    intro span items hitems
    simp only [evaluate]
    refine hitems.bind fun hafter hvalues => ?_
    exact .step hafter hvalues (agrees_makeArray hafter hvalues)
  case table =>
    intro span entries hentries
    simp only [evaluate]
    refine hentries.bind fun hafter hfields => ?_
    exact .step hafter hfields.values (agrees_makeTable hafter hfields)
  case callNamed =>
    intro span span' name arguments harguments
    simp only [evaluate]
    exact harguments.bind fun hafter hvalues =>
      agrees_callNamed hsettings hcall hafter span name hvalues
  case callMethod =>
    intro span span' receiver name arguments hreceiver harguments
    simp only [evaluate]
    refine hreceiver.bindHolding harguments fun hafter hvalue hvalues => ?_
    refine .step hafter (hvalue.cons hvalues) (agrees_object hafter span name hvalue ?_)
    exact fun hhandle => agrees_callMethod hafter span hhandle name hvalues
  case notCallable =>
    intro span callee arguments hvariable hmember π machine mirror hmachine
    simp only [evaluate]
    exact .step hmachine .nil (.fail hmachine (by simp [RuntimeError.Ordinary]) _)
  case member =>
    intro span receiver name hreceiver
    simp only [evaluate]
    refine hreceiver.bind fun hafter hvalue => ?_
    refine .step hafter hvalue.single (agrees_object hafter span name hvalue ?_)
    exact fun hhandle => agrees_getMember hafter span hhandle name
  case conjunction =>
    intro span left right hleft hright
    simp only [evaluate]
    refine hleft.bind fun hafter hvalue => ?_
    refine (agrees_truth hafter left.span hvalue).bind ?_
    rintro σ after after' value _ hafter rfl
    cases value with
    | true => exact alike_condition hright right.span hafter
    | false => exact .pure hafter ⟨rfl, Heap.holds_boolean⟩
  case disjunction =>
    intro span left right hleft hright
    simp only [evaluate]
    refine hleft.bind fun hafter hvalue => ?_
    refine (agrees_truth hafter left.span hvalue).bind ?_
    rintro σ after after' value _ hafter rfl
    cases value with
    | true => exact .pure hafter ⟨rfl, Heap.holds_boolean⟩
    | false => exact alike_condition hright right.span hafter
  case binary =>
    intro span operator left right hand hor hleft hright
    simp only [evaluate]
    refine hleft.bindHolding hright fun hafter hfirst hsecond => ?_
    refine .step hafter (hfirst.cons hsecond.single) (.lift hafter span ?_)
    rw [hfirst.1, hsecond.1, Operator.binary_rename]
    exact (Operator.isPlain_binary operator _ _).agrees _ _
  case unary =>
    intro span operator operand hoperand
    simp only [evaluate]
    refine hoperand.bind fun hafter hvalue => ?_
    refine .step hafter hvalue.single (.lift hafter span ?_)
    rw [hvalue.1, Operator.unary_rename]
    exact (Operator.isPlain_unary operator _).agrees _ _
  case nil =>
    intro π machine mirror hmachine
    simp only [evaluateAll]
    exact .pure hmachine .nil
  case cons =>
    intro expression rest hexpression hrest
    simp only [evaluateAll]
    exact hexpression.bindHolding hrest fun hafter hvalue hvalues =>
      .pure hafter (hvalue.cons hvalues)
  case nilFields =>
    intro π machine mirror hmachine
    simp only [evaluateFields]
    exact .pure hmachine ⟨rfl, List.forall_mem_nil _⟩
  case consFields =>
    intro name expression rest hexpression hrest
    simp only [evaluateFields]
    exact hexpression.bindHolding hrest fun hafter hvalue hfields =>
      .pure hafter (hfields.cons hvalue)

/-- Statements that end in the same way, up to a renaming of handles. -/
inductive SameFlow (π : Equiv.Perm Handle) (heap : Heap) : Flow → Flow → Prop
  | next : SameFlow π heap .next .next
  | value {value value' : Value} (hvalue : SameValue π heap value value') :
      SameFlow π heap (.return value) (.return value')

/-- Branches of which the same one is taken, or none, and that end in the same way. -/
inductive SameBranch (π : Equiv.Perm Handle) (heap : Heap) : Option Flow → Option Flow → Prop
  | none : SameBranch π heap .none .none
  | some {flow flow' : Flow} (hflow : SameFlow π heap flow flow') :
      SameBranch π heap (.some flow) (.some flow')

theorem agrees_collect (hmachine : machine.Mirrors π mirror)
    (hsettings : Paired settings settings') :
    Watched.Agrees (fun _ _ => Eq) machine mirror (.step [] (collect settings))
      (.step [] (collect settings')) :=
  .step hmachine .nil (Evaluator.agrees_collect hmachine hsettings.never)

theorem agrees_stepNext (hmachine : machine.Mirrors π mirror) {inHand inHand' : List Value}
    (hhand : SameValues π machine.context.heap inHand inHand') {run run' : Run Unit}
    (hrun : Run.Agrees (fun _ _ => Eq) machine mirror (run machine) (run' mirror)) :
    Watched.Agrees SameFlow machine mirror
      (do
        .step inHand run
        return .next)
      (do
        .step inHand' run'
        return .next) :=
  (Watched.Agrees.step hmachine hhand hrun).bind fun hend _ => .pure hend .next

theorem alike_statements (hsettings : Paired settings settings') (hcall : call.Agrees call') :
    (∀ statement, Watched.Alike SameFlow (execute settings call statement)
      (execute settings' call' statement)) ∧
    (∀ statements, Watched.Alike SameFlow (executeBlock settings call statements)
      (executeBlock settings' call' statements)) ∧
    ∀ branches, Watched.Alike SameBranch (executeBranches settings call branches)
      (executeBranches settings' call' branches) := by
  obtain ⟨hexpression, hfields, hexpressions⟩ := alike_expressions hsettings hcall
  refine execute.mutual_induct _ _ _ ?library ?print ?assign ?assignMember ?expression ?conditional
    ?function ?returnNothing ?returnValue ?component ?noBranch ?branch ?nil ?cons
  case library =>
    intro span path π machine mirror hmachine
    simp only [execute]
    exact .pure hmachine .next
  case print =>
    intro span values
    simp only [execute]
    refine (hexpressions values).bind fun hafter hvalues => ?_
    exact agrees_stepNext hafter hvalues (agrees_print hafter hvalues)
  case assign =>
    intro span name value
    simp only [execute]
    refine (hexpression value).bind fun hafter hvalue => ?_
    exact agrees_stepNext hafter hvalue.single (agrees_assign hafter name hvalue)
  case assignMember =>
    intro span receiver name value
    simp only [execute]
    refine (hexpression value).bindHolding (hexpression receiver) fun hafter hvalue htarget => ?_
    refine agrees_stepNext hafter (htarget.cons hvalue.single)
      (agrees_object hafter span name htarget ?_)
    exact fun hhandle => agrees_setMember hafter span hhandle name hvalue
  case expression =>
    intro span value
    simp only [execute]
    exact (hexpression value).bind fun hafter _ => .pure hafter .next
  case conditional =>
    intro span branches otherwise hbranches hotherwise
    cases otherwise with
    | none =>
        simp only [execute]
        refine hbranches.bind fun hafter hbranch => ?_
        cases hbranch with
        | some hflow => exact .pure hafter hflow
        | none => exact .pure hafter .next
    | some body =>
        simp only [execute]
        refine hbranches.bind fun hafter hbranch => ?_
        cases hbranch with
        | some hflow => exact .pure hafter hflow
        | none => exact hotherwise hafter
  case function =>
    intro span name parameters body isSub π machine mirror hmachine
    simp only [execute]
    exact agrees_stepNext hmachine .nil
      (agrees_modify (hmachine.declare ⟨name, parameters, body⟩) rfl rfl)
  case returnNothing =>
    intro span π machine mirror hmachine
    simp only [execute]
    exact .pure hmachine (.value ⟨rfl, Heap.holds_invalid⟩)
  case returnValue =>
    intro span value
    simp only [execute]
    exact (hexpression value).bind fun hafter hvalue => .pure hafter (.value hvalue)
  case component =>
    intro span name base fields
    simp only [execute]
    refine (hfields fields).bind fun hafter hvalues => ?_
    exact agrees_stepNext hafter hvalues.values (agrees_declareKind hafter name base hvalues)
  case noBranch =>
    intro π machine mirror hmachine
    simp only [executeBranches]
    exact .pure hmachine .none
  case branch =>
    intro condition body rest hbody hrest
    simp only [executeBranches]
    refine (hexpression condition).bind fun hafter hvalue => ?_
    refine (agrees_truth hafter condition.span hvalue).bind ?_
    rintro σ after after' value _ hafter rfl
    cases value with
    | true => exact (hbody hafter).bind fun hend hflow => .pure hend (.some hflow)
    | false => exact hrest hafter
  case nil =>
    intro π machine mirror hmachine
    simp only [executeBlock]
    exact .pure hmachine .next
  case cons =>
    intro statement rest hstatement hrest
    simp only [executeBlock]
    refine hstatement.bind fun hafter hflow => ?_
    cases hflow with
    | value hvalue => exact .pure hafter (.value hvalue)
    | next => exact (agrees_collect hafter hsettings).bind fun hend _ => hrest hend

theorem agrees_callWithin (hsettings : Paired settings settings') (depth : Nat) :
    (callWithin settings depth).Agrees (callWithin settings' depth) := by
  induction depth with
  | zero =>
      intro π machine mirror hmachine function arguments arguments' span harguments
      exact .step hmachine harguments (.fail hmachine (by simp [RuntimeError.Ordinary]) span)
  | succ depth ih =>
      intro π machine mirror hmachine function arguments arguments' span harguments
      have hbody := (alike_statements hsettings ih).2.1 function.body
      have hhand := harguments
      obtain ⟨rfl, hholds⟩ := harguments
      simp only [callWithin, List.length_map]
      split
      · exact .step hmachine hhand (.fail hmachine (by simp [RuntimeError.Ordinary]) span)
      · have hframe :
            (.ofList (function.parameters.zip (arguments.map (Value.rename π))) : Frame) =
              (Dictionary.ofList (function.parameters.zip arguments)).mapValues
                (Value.rename π) := by
          rw [← Dictionary.ofList_map, List.zip_map_right]
          rfl
        rw [hframe]
        refine (Watched.Agrees.within hmachine ?_ (hbody ·)).bind fun hend hflow => ?_
        · intro value hvalue
          obtain ⟨entry, hentry, rfl⟩ := List.mem_map.mp (Dictionary.mem_values_ofList hvalue)
          exact hholds _ (List.of_mem_zip hentry).2
        · cases hflow with
          | value hvalue => exact .pure hend hvalue
          | next => exact .pure hend ⟨rfl, Heap.holds_invalid⟩

theorem agrees_callFunction (hsettings : Paired settings settings') :
    (callFunction settings).Agrees (callFunction settings') :=
  agrees_callWithin hsettings maxDepth

theorem agrees_addResult (hmachine : machine.Mirrors π mirror) {value value' : Value}
    (hvalue : SameValue π machine.context.heap value value') :
    Watched.Agrees (fun _ _ => Eq) machine mirror (addResult value) (addResult value') :=
  .step hmachine hvalue.single (Evaluator.agrees_addResult hmachine hvalue)

theorem alike_executeProgram (hsettings : Paired settings settings') (statements : List Statement) :
    Watched.Alike (fun _ _ => Eq) (executeProgram settings statements)
      (executeProgram settings' statements) := by
  have hexpression := (alike_expressions hsettings (agrees_callFunction hsettings)).1
  have hexecute := (alike_statements hsettings (agrees_callFunction hsettings)).1
  induction statements using executeProgram.induct with
  | case1 =>
      intro π machine mirror hmachine
      exact .pure hmachine rfl
  | case2 span expression rest ih =>
      simp only [executeProgram]
      refine (hexpression expression).bind fun hafter hvalue => ?_
      refine (agrees_addResult hafter hvalue).bind fun hadded _ => ?_
      exact (agrees_collect hadded hsettings).bind fun hend _ => ih hend
  | case3 statement rest hstatement ih =>
      simp only [executeProgram]
      refine (hexecute statement).bind fun hafter hflow => ?_
      cases hflow with
      | value hvalue =>
          exact (agrees_addResult hafter hvalue).bind fun hadded _ => .pure hadded rfl
      | next =>
          refine (agrees_addResult hafter ⟨rfl, Heap.holds_invalid⟩).bind fun hadded _ => ?_
          exact (agrees_collect hadded hsettings).bind fun hend _ => ih hend

theorem alike_callEntry (hsettings : Paired settings settings') :
    Watched.Alike (fun _ _ => Eq) (callEntry settings) (callEntry settings') := by
  intro π machine mirror hmachine
  have hcall := agrees_callFunction hsettings hmachine
  refine .state_bind ?_
  rw [hmachine.functions, hmachine.scope]
  cases entryPoints.findSome? machine.functions.get? with
  | none => exact .pure hmachine rfl
  | some function =>
      dsimp only
      generalize function.parameters = parameters
      rcases parameters with _ | ⟨parameter, _ | ⟨other, rest⟩⟩
      · exact (hcall function none .nil).bind fun hafter hvalue => agrees_addResult hafter hvalue
      · have hscope : SameValue π machine.context.heap (.object machine.scope)
            (.object (π machine.scope)) := ⟨rfl, Heap.holds_object.mpr hmachine.covers_scope⟩
        exact (hcall function none hscope.single).bind fun hafter hvalue =>
          agrees_addResult hafter hvalue
      · exact .step hmachine .nil (.fail hmachine (by simp [RuntimeError.Ordinary]) none)

/-- A program runs alike whether garbage is collected or not. -/
theorem alike_runProgram (hsettings : Paired settings settings') (statements : List Statement) :
    Watched.Alike (fun _ _ => Eq) (runProgram settings statements)
      (runProgram settings' statements) := by
  intro π machine mirror hmachine
  refine (Watched.Agrees.step hmachine .nil (agrees_hoist hmachine statements)).bind
    fun hstart _ => ?_
  refine (alike_executeProgram hsettings statements hstart).bind ?_
  rintro σ after after' finished _ hafter rfl
  cases finished with
  | true => exact alike_callEntry hsettings hafter
  | false => exact .pure hafter rfl

end Watch

end BrightScript.Evaluator
