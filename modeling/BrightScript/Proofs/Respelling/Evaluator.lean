import BrightScript.Proofs.Respelling.Run

namespace BrightScript

namespace Builtin

theorem ofName?_respell (spelling : Respelling) (name : String) :
    ofName? (spelling name) = ofName? name := by
  rw [ofName?, ofName?, spelling.key_apply]

theorem expect_respell (spelling : Respelling) (name : String) (arguments : List Value)
    (expected : Nat) : expect (spelling name) arguments expected =
      (expect name arguments expected).mapError (RuntimeError.respell spelling) := by
  unfold expect
  split <;> rfl

theorem text_respell (spelling : Respelling) (name : String) (arguments : List Value)
    (position : Nat) : text (spelling name) arguments position =
      (text name arguments position).mapError (RuntimeError.respell spelling) := by
  unfold text
  split <;> rfl

theorem mapError_bind {α β : Type} (change : RuntimeError → RuntimeError)
    (result : Except RuntimeError α) (next : α → Except RuntimeError β) :
    (result >>= next).mapError change =
      result.mapError change >>= fun value => (next value).mapError change := by
  cases result <;> rfl

theorem call_respell (spelling : Respelling) (registry : Registry) (builtin : Builtin)
    (name : String) (arguments : List Value) :
    builtin.call registry (spelling name) arguments =
      (builtin.call registry name arguments).mapError (RuntimeError.respell spelling) := by
  cases builtin with
  | numberText =>
      simp only [call, expect_respell, mapError_bind]
      refine bind_congr fun _ => ?_
      split <;> rfl
  | _ => simp only [call, expect_respell, text_respell, mapError_bind]; rfl

end Builtin

namespace Component

theorem member_respell (spelling : Respelling) (name : String) (component : Component) :
    component.member (spelling name) =
      (component.member name).mapError (MethodError.respell spelling) := by
  cases component with
  | table entries => simp only [member, entries.get?_congr (spelling.key_apply name)]; rfl
  | node data => simp only [member, data.fields.get?_congr (spelling.key_apply name)]; rfl
  | host object => simp only [member, object.fields.get?_congr (spelling.key_apply name)]; rfl
  | _ => rfl

end Component

namespace Heap

theorem getMember_respell (spelling : Respelling) (heap : Heap) (this : Handle) (name : String) :
    heap.getMember this (spelling name) =
      (heap.getMember this name).mapError (MethodError.respell spelling) := by
  unfold getMember
  cases heap.get? this with
  | some component => exact component.member_respell spelling name
  | none => rfl

theorem callMethod_respell (spelling : Respelling) (heap : Heap) (catalog : NodeCatalog)
    (this : Handle) (name : String) (arguments : List Value) :
    heap.callMethod catalog this (spelling name) arguments =
      heap.callMethod catalog this name arguments := by
  simp only [callMethod, spelling.key_apply]

end Heap

namespace Evaluator

variable {pairing : Pairing}

theorem parallel_readVariable (span : Span) (name : String) :
    Run.Parallel pairing (readVariable span name)
      (readVariable span (pairing.spelling name)) := by
  refine .get_bind fun {machine other} hmachine => ?_
  rw [hmachine.valueOf?_eq, hmachine.contains_functions]
  cases machine.valueOf? name with
  | some value => exact .pure value
  | none =>
      dsimp only
      split
      · exact .failRespelled _ _
      · exact .failRespelled _ _

theorem parallel_object (span : Span) (name : String) (value : Value) :
    Run.Parallel pairing (object span name value)
      (object span (pairing.spelling name) value) := by
  cases value with
  | object handle => exact .pure handle
  | _ => exact .failRespelled _ _

theorem parallel_target (span : Span) (name : String) (value : Value) :
    Run.Parallel pairing (object span name value) (object span name value) := by
  cases value with
  | object handle => exact .pure handle
  | _ => exact .fail _ _

theorem parallel_truth (span : Span) (value : Value) :
    Run.Parallel pairing (truth span value) (truth span value) := by
  cases value with
  | boolean value => exact .pure value
  | _ => exact .fail _ _

theorem parallel_callMethod (span : Span) (receiver : Handle) (name : String)
    (arguments : List Value) :
    Run.Parallel pairing (callMethod span receiver name arguments)
      (callMethod span receiver (pairing.spelling name) arguments) := by
  have hcall : callOn receiver (pairing.spelling name) arguments =
      callOn receiver name arguments := by
    funext context
    simp only [callOn, Heap.callMethod_respell]
  simp only [callMethod, hcall]
  exact (Run.Parallel.withContext _).bind fun result => .lift span _

theorem parallel_getMember (span : Span) (handle : Handle) (name : String) :
    Run.Parallel pairing (getMember span handle name)
      (getMember span handle (pairing.spelling name)) := by
  refine .get_bind fun {machine other} hmachine => ?_
  rw [hmachine.context, Heap.getMember_respell]
  cases machine.context.heap.getMember handle name with
  | ok value => exact .pure value
  | error error => exact .failRespelled _ _

theorem parallel_setMember (span : Span) (handle : Handle) (name : String) (value : Value) :
    Run.Parallel pairing (setMember span handle name value) (setMember span handle name value) :=
  (Run.Parallel.withContext _).bind fun _ => .lift span _

theorem parallel_builtin (span : Span) (registry : Registry) (builtin : Builtin) (name : String)
    (arguments : List Value) :
    Run.Parallel pairing
      (do
        Run.withContext (← Run.lift span (builtin.call registry name arguments)))
      (do
        Run.withContext
          (← Run.lift span (builtin.call registry (pairing.spelling name) arguments))) := by
  rw [Builtin.call_respell]
  exact (Run.Parallel.liftRespelled span _).bind .withContext

theorem parallel_print (values : List Value) :
    let print : Run Unit := modify fun machine =>
      let line := " ".intercalate (values.map machine.display)
      { machine with context := machine.context.print line }
    Run.Parallel pairing print print := by
  refine .modify fun hmachine => ?_
  dsimp only
  rw [hmachine.display_eq, hmachine.context]
  exact hmachine.withContext _

/-- Calls of functions that declare none of the pinned ones run in parallel. -/
def WatchedCaller.Parallel (pairing : Pairing) (call call' : WatchedCaller) : Prop :=
  ∀ (function : Function) (arguments : List Value) (span : Option Span),
    Spares pairing.pinned (Statement.blockNames function.body) →
      Watched.Parallel pairing (call function arguments span)
        (call' (function.respell pairing.spelling) arguments span)

namespace Watch

variable {settings : Settings} {call call' : WatchedCaller}

theorem parallel_callNamed (hcall : call.Parallel pairing call') (span : Span) (name : String)
    (arguments : List Value) :
    Watched.Parallel pairing (callNamed settings call span name arguments)
      (callNamed settings call' span (pairing.spelling name) arguments) := by
  unfold callNamed
  rw [Builtin.ofName?_respell]
  cases Builtin.ofName? name with
  | some builtin => exact .step (parallel_builtin span _ builtin name arguments)
  | none =>
      refine .state_bind fun {machine other} hmachine => ?_
      rw [hmachine.get?_functions]
      cases hfunction : machine.functions.get? name with
      | some function => exact hcall function arguments _ (hmachine.spared hfunction)
      | none => exact .step (.failRespelled _ _)

theorem parallel_condition {first second : Watched Value}
    (hfirst : Watched.Parallel pairing first second) (span : Span) :
    Watched.Parallel pairing
      (do
        let value ← first
        return Value.boolean (← .step [value] (truth span value)))
      (do
        let value ← second
        return Value.boolean (← .step [value] (truth span value))) :=
  hfirst.bind fun value => (Watched.Parallel.step (parallel_truth span value)).bind fun _ => .pure _

/-- Expressions, lists of expressions and named expressions run in parallel to themselves with their
names respelled. -/
theorem parallel_expressions (hcall : call.Parallel pairing call') :
    (∀ expression, Watched.Parallel pairing (evaluate settings call expression)
      (evaluate settings call' (expression.respell pairing.spelling))) ∧
    (∀ fields, Watched.Parallel pairing (evaluateFields settings call fields)
      (evaluateFields settings call' (Expression.respellFields pairing.spelling fields))) ∧
    ∀ expressions, Watched.Parallel pairing (evaluateAll settings call expressions)
      (evaluateAll settings call' (Expression.respellAll pairing.spelling expressions)) := by
  refine evaluate.mutual_induct _ _ _ ?literal ?read ?array ?table ?callNamed ?callMethod
    ?notCallable ?member ?conjunction ?disjunction ?binary ?unary ?nil ?cons ?nilFields
    ?consFields
  case literal =>
    intro span value
    simp only [Expression.respell, evaluate]
    exact .pure _
  case read =>
    intro span name
    simp only [Expression.respell, evaluate]
    exact .step (parallel_readVariable span name)
  case array =>
    intro span items hitems
    simp only [Expression.respell, evaluate]
    exact hitems.bind fun values => .step (.alloc _)
  case table =>
    intro span entries hentries
    simp only [Expression.respell, evaluate]
    exact hentries.bind fun values => .step (.alloc _)
  case callNamed =>
    intro span span' name arguments harguments
    simp only [Expression.respell, evaluate]
    exact harguments.bind fun values => parallel_callNamed hcall span name values
  case callMethod =>
    intro span span' receiver name arguments hreceiver harguments
    simp only [Expression.respell, evaluate]
    refine hreceiver.bind fun value =>
      (Watched.Parallel.holding value harguments).bind fun values => .step ?_
    exact (parallel_object span name value).bind fun handle =>
      parallel_callMethod span handle name values
  case notCallable =>
    intro span callee arguments hvariable hmember
    cases callee with
    | «variable» span' name => exact (hvariable span' name rfl).elim
    | member span' receiver name => exact (hmember span' receiver name rfl).elim
    | _ =>
        simp only [Expression.respell, evaluate]
        exact .step (.fail _ _)
  case member =>
    intro span receiver name hreceiver
    simp only [Expression.respell, evaluate]
    refine hreceiver.bind fun value => .step ?_
    exact (parallel_object span name value).bind fun handle => parallel_getMember span handle name
  case conjunction =>
    intro span left right hleft hright
    simp only [Expression.respell, evaluate, Expression.span_respell]
    refine hleft.bind fun value => ?_
    refine (Watched.Parallel.step (parallel_truth left.span value)).bind fun holds => ?_
    cases holds with
    | true => exact parallel_condition hright right.span
    | false => exact .pure _
  case disjunction =>
    intro span left right hleft hright
    simp only [Expression.respell, evaluate, Expression.span_respell]
    refine hleft.bind fun value => ?_
    refine (Watched.Parallel.step (parallel_truth left.span value)).bind fun holds => ?_
    cases holds with
    | true => exact .pure _
    | false => exact parallel_condition hright right.span
  case binary =>
    intro span operator left right hand hor hleft hright
    simp only [Expression.respell, evaluate]
    refine hleft.bind fun first => (Watched.Parallel.holding first hright).bind fun second => ?_
    exact .step (.lift span _)
  case unary =>
    intro span operator operand hoperand
    simp only [Expression.respell, evaluate]
    exact hoperand.bind fun value => .step (.lift span _)
  case nil =>
    simp only [Expression.respellAll, evaluateAll]
    exact .pure _
  case cons =>
    intro expression rest hexpression hrest
    simp only [Expression.respellAll, evaluateAll]
    exact hexpression.bind fun value => (Watched.Parallel.holding value hrest).bind fun _ => .pure _
  case nilFields =>
    simp only [Expression.respellFields, evaluateFields]
    exact .pure _
  case consFields =>
    intro name expression rest hexpression hrest
    simp only [Expression.respellFields, evaluateFields]
    exact hexpression.bind fun value => (Watched.Parallel.holding value hrest).bind fun _ => .pure _

theorem parallel_collect :
    Watched.Parallel pairing (.step [] (collect settings)) (.step [] (collect settings)) :=
  .step (.modify fun hmachine => hmachine.collect settings)

theorem parallel_stepNext {inHand inHand' : List Value} {run run' : Run Unit}
    (hrun : run.Parallel pairing run') :
    Watched.Parallel pairing
      (do
        .step inHand run
        return Flow.next)
      (do
        .step inHand' run'
        return Flow.next) :=
  (Watched.Parallel.step hrun).bind fun _ => .pure _

theorem parallel_statements (hcall : call.Parallel pairing call') :
    (∀ statement : Statement, Spares pairing.pinned statement.declaredNames →
      Watched.Parallel pairing (execute settings call statement)
        (execute settings call' (statement.respell pairing.spelling))) ∧
    (∀ statements, Spares pairing.pinned (Statement.blockNames statements) →
      Watched.Parallel pairing (executeBlock settings call statements)
        (executeBlock settings call' (Statement.respellBlock pairing.spelling statements))) ∧
    ∀ branches, Spares pairing.pinned (Statement.branchNames branches) →
      Watched.Parallel pairing (executeBranches settings call branches)
        (executeBranches settings call'
          (Statement.respellBranches pairing.spelling branches)) := by
  obtain ⟨hexpression, hfields, hexpressions⟩ := @parallel_expressions pairing settings _ _ hcall
  refine execute.mutual_induct _ _ _ ?library ?print ?assign ?assignMember ?expression ?conditional
    ?function ?returnNothing ?returnValue ?component ?noBranch ?branch ?nil ?cons
  case library =>
    intro span path hspares
    simp only [Statement.respell, execute]
    exact .pure _
  case print =>
    intro span values hspares
    simp only [Statement.respell, execute]
    exact (hexpressions values).bind fun values => parallel_stepNext (parallel_print values)
  case assign =>
    intro span name value hspares
    simp only [Statement.respell, execute]
    refine (hexpression value).bind fun value => parallel_stepNext ?_
    exact .modify fun hmachine => hmachine.assign name value
  case assignMember =>
    intro span receiver name value hspares
    simp only [Statement.respell, execute]
    refine (hexpression value).bind fun value =>
      (Watched.Parallel.holding value (hexpression receiver)).bind fun target =>
        parallel_stepNext ?_
    exact (parallel_target span name target).bind fun handle =>
      parallel_setMember span handle name value
  case expression =>
    intro span value hspares
    simp only [Statement.respell, execute]
    exact (hexpression value).bind fun _ => .pure _
  case conditional =>
    intro span branches otherwise hbranches hotherwise hspares
    simp only [Statement.declaredNames, Spares.append_iff] at hspares
    obtain ⟨hspares, hrest⟩ := hspares
    cases otherwise with
    | none =>
        simp only [Statement.respell, Statement.respellOtherwise, execute]
        refine (hbranches hspares).bind fun flow => ?_
        cases flow <;> exact .pure _
    | some body =>
        simp only [Statement.respell, Statement.respellOtherwise, execute]
        refine (hbranches hspares).bind fun flow => ?_
        cases flow with
        | some flow => exact .pure _
        | none => exact hotherwise hrest
  case function =>
    intro span name parameters body isSub hspares
    simp only [Statement.declaredNames, Spares.cons_iff] at hspares
    simp only [Statement.respell, execute]
    refine parallel_stepNext (.modify fun hmachine => ?_)
    exact hmachine.declare (List.forall_mem_singleton.mpr hspares.1) hspares.2
  case returnNothing =>
    intro span hspares
    simp only [Statement.respell, Option.map_none, execute]
    exact .pure _
  case returnValue =>
    intro span value hspares
    simp only [Statement.respell, Option.map_some, execute]
    exact (hexpression value).bind fun _ => .pure _
  case component =>
    intro span name base fields hspares
    simp only [Statement.respell, execute]
    exact (hfields fields).bind fun values => parallel_stepNext (.withContext _)
  case noBranch =>
    intro hspares
    simp only [Statement.respellBranches, executeBranches]
    exact .pure _
  case branch =>
    intro condition body rest hbody hrest hspares
    rw [Statement.branchNames, Spares.append_iff] at hspares
    simp only [Statement.respellBranches, executeBranches, Expression.span_respell]
    refine (hexpression condition).bind fun value => ?_
    refine (Watched.Parallel.step (parallel_truth condition.span value)).bind fun holds => ?_
    cases holds with
    | true => exact (hbody hspares.1).bind fun _ => .pure _
    | false => exact hrest hspares.2
  case nil =>
    intro hspares
    simp only [Statement.respellBlock, executeBlock]
    exact .pure _
  case cons =>
    intro statement rest hstatement hrest hspares
    rw [Statement.blockNames, Spares.append_iff] at hspares
    simp only [Statement.respellBlock, executeBlock]
    refine (hstatement hspares.1).bind fun flow => ?_
    cases flow with
    | «return» value => exact .pure _
    | next => exact parallel_collect.bind fun _ => hrest hspares.2

theorem parallel_callWithin (depth : Nat) :
    (callWithin settings depth).Parallel pairing (callWithin settings depth) := by
  induction depth with
  | zero => exact fun function arguments span _ => .step (.failRespelled _ span)
  | succ depth ih =>
      intro function arguments span hspares
      have hbody := (@parallel_statements pairing settings _ _ ih).2.1 function.body hspares
      simp only [callWithin, Function.respell, List.length_map]
      split
      · exact .step (.failRespelled _ span)
      · have hframe : (.ofList ((function.parameters.map pairing.spelling).zip arguments) : Frame) =
            (Dictionary.ofList (function.parameters.zip arguments)).respell pairing.spelling := by
          rw [Dictionary.respell_ofList, List.zip_map_left]
          rfl
        rw [hframe]
        refine (hbody.within _).bind fun flow => ?_
        cases flow <;> exact .pure _

theorem parallel_callFunction :
    (callFunction settings).Parallel pairing (callFunction settings) :=
  parallel_callWithin maxDepth

end Watch

end Evaluator

end BrightScript
