import BrightScript.Proofs.Evaluator.Unbounded

/-!
Every program ends. A computation without a bound follows the bounded one under watch: where the
stack holds a number of frames, as many more calls may be nested as are missing from the limit, and
every step leaves as many frames as it finds. Within a call the syntax gets smaller, so the proof
goes by the calls that are left and then by the syntax.
-/

namespace BrightScript

variable {α β : Type}

/-- A computation leaves as many frames as it finds, if there is one. -/
def Run.Keeps (run : Run α) : Prop :=
  ∀ machine, machine.frames ≠ [] →
    (Run.final (run machine)).frames.length = machine.frames.length

namespace Run.Keeps

theorem pure (value : α) : Keeps (pure value) := fun _ _ => rfl

theorem get : Keeps get := fun _ _ => rfl

theorem fail (error : RuntimeError) (span : Option Span) : Keeps (Run.fail error span : Run α) :=
  fun _ _ => rfl

theorem lift (span : Span) (result : Except RuntimeError α) : Keeps (Run.lift span result) := by
  cases result with
  | ok value => exact pure value
  | error error => exact fail error _

theorem withContext (change : RunContext → α × RunContext) : Keeps (Run.withContext change) :=
  fun _ _ => rfl

theorem modify {change : Machine → Machine}
    (hchange : ∀ machine, machine.frames ≠ [] →
      (change machine).frames.length = machine.frames.length) :
    Keeps (modify change) :=
  hchange

theorem bind {first : Run α} {next : α → Run β} (hfirst : first.Keeps)
    (hnext : ∀ value, (next value).Keeps) : (first >>= next).Keeps := by
  intro machine hframes
  have hlength := hfirst machine hframes
  change (Run.final (EStateM.bind first next machine)).frames.length = _
  unfold EStateM.bind
  cases hrun : first machine with
  | ok value after =>
      rw [hrun] at hlength
      have hafter : after.frames ≠ [] := by
        rw [← List.length_pos_iff, show after.frames.length = _ from hlength, List.length_pos_iff]
        exact hframes
      exact (hnext value after hafter).trans hlength
  | error fault after =>
      rw [hrun] at hlength
      exact hlength

end Run.Keeps

namespace Evaluator

theorem keeps_readVariable (span : Span) (name : String) : (readVariable span name).Keeps := by
  refine .bind .get fun machine => ?_
  split
  · exact .pure _
  · split
    · exact .fail _ _
    · exact .fail _ _

theorem keeps_alloc (component : Component) : (Run.alloc component).Keeps :=
  .bind (.withContext _) fun _ => .pure _

theorem keeps_object (span : Span) (name : String) (value : Value) :
    (object span name value).Keeps := by
  cases value with
  | object handle => exact .pure _
  | _ => exact .fail _ _

theorem keeps_truth (span : Span) (value : Value) : (truth span value).Keeps := by
  cases value with
  | boolean value => exact .pure _
  | _ => exact .fail _ _

theorem keeps_callMethod (span : Span) (receiver : Handle) (name : String)
    (arguments : List Value) : (callMethod span receiver name arguments).Keeps :=
  .bind (.withContext _) fun _ => .lift _ _

theorem keeps_getMember (span : Span) (handle : Handle) (name : String) :
    (getMember span handle name).Keeps :=
  .bind .get fun _ => .lift _ _

theorem keeps_setMember (span : Span) (handle : Handle) (name : String) (value : Value) :
    (setMember span handle name value).Keeps :=
  .bind (.withContext _) fun _ => .lift _ _

theorem keeps_collect (settings : Settings) : (collect settings).Keeps := by
  refine .modify fun machine _ => ?_
  unfold Machine.collect
  split
  · rfl
  · split <;> rfl

theorem keeps_assign (name : String) (value : Value) :
    Run.Keeps (modify fun machine => machine.assign name value) := by
  refine .modify fun machine hframes => ?_
  unfold Machine.assign
  split
  · next frame frames hmachine => rw [hmachine, List.length_cons, List.length_cons]
  · next hnone => exact absurd hnone hframes

end Evaluator

namespace Unbounded

/-- Where the stack holds a number of frames, a computation without a bound ends as the one under
watch, with as many frames, and no moment has more frames than the limit allows. -/
def Follows (frames : Nat) (unbounded : Unbounded α) (watched : Watched α) : Prop :=
  ∀ machine, machine.frames.length = frames →
    unbounded machine = ofRun watched.run machine ∧
    (Run.final (watched.run machine)).frames.length = frames ∧
    ∀ moment ∈ watched.moments machine, moment.machine.frames.length ≤ Evaluator.maxDepth + 1

namespace Follows

variable {frames : Nat}

theorem pure (value : α) : Follows frames (pure value) (pure value) := by
  rintro machine hframes
  exact ⟨rfl, hframes, List.forall_mem_nil _⟩

theorem bind {first : Unbounded α} {next : α → Unbounded β} {first' : Watched α}
    {next' : α → Watched β} (hfirst : Follows frames first first')
    (hnext : ∀ value, Follows frames (next value) (next' value)) :
    Follows frames (first >>= next) (first' >>= next') := by
  intro machine hframes
  obtain ⟨hrun, hlength, hmoments⟩ := hfirst machine hframes
  cases hresult : first'.run machine with
  | ok value after =>
      rw [hresult] at hlength
      obtain ⟨hrun', hlength', hmoments'⟩ := hnext value after hlength
      have hleft : (first >>= next) machine = next value after := by
        change Option.bind (first machine) _ = _
        rw [hrun, ofRun, hresult]
        rfl
      have hright : (first' >>= next').run machine = (next' value).run after := by
        change EStateM.bind first'.run _ machine = _
        rw [EStateM.bind, hresult]
      refine ⟨?_, ?_, ?_⟩
      · rw [hleft, hrun', ofRun, ofRun, hright]
      · rw [hright]
        exact hlength'
      · change ∀ moment ∈ first'.moments machine ++ _, _
        rw [hresult]
        exact List.forall_mem_append.mpr ⟨hmoments, hmoments'⟩
  | error fault after =>
      rw [hresult] at hlength
      have hleft : (first >>= next) machine = some (.error fault, after) := by
        change Option.bind (first machine) _ = _
        rw [hrun, ofRun, hresult]
        rfl
      have hright : (first' >>= next').run machine = .error fault after := by
        change EStateM.bind first'.run _ machine = _
        rw [EStateM.bind, hresult]
      refine ⟨?_, ?_, ?_⟩
      · rw [hleft, ofRun, hright]
      · rw [hright]
        exact hlength
      · change ∀ moment ∈ first'.moments machine ++ _, _
        rw [hresult]
        exact List.forall_mem_append.mpr ⟨hmoments, List.forall_mem_nil _⟩

theorem step (hframes : 0 < frames ∧ frames ≤ Evaluator.maxDepth + 1) (inHand : List Value)
    {run : Run α} (hrun : run.Keeps) : Follows frames (ofRun run) (.step inHand run) := by
  rintro machine rfl
  have hlength := hrun machine (List.length_pos_iff.mp hframes.1)
  refine ⟨rfl, hlength, List.forall_mem_cons.mpr ⟨hframes.2, List.forall_mem_singleton.mpr ?_⟩⟩
  rw [hlength]
  exact hframes.2

theorem state : Follows frames get Watched.state := by
  intro machine hframes
  exact ⟨rfl, hframes, List.forall_mem_nil _⟩

theorem bracket {inner : Nat} {start finish : Machine → Machine} {body : Unbounded α}
    {body' : Watched α} (hframes : frames ≤ Evaluator.maxDepth + 1)
    (hinner : inner ≤ Evaluator.maxDepth + 1)
    (hstart : ∀ machine, machine.frames.length = frames → (start machine).frames.length = inner)
    (hfinish : ∀ machine, machine.frames.length = inner → (finish machine).frames.length = frames)
    (hbody : Follows inner body body') :
    Follows frames (Unbounded.bracket start finish body) (Watched.bracket start finish body') := by
  intro machine hmachine
  obtain ⟨hrun, hlength, hmoments⟩ := hbody (start machine) (hstart machine hmachine)
  have hfinal :
      (Run.final (Run.bracket start finish body'.run machine)).frames.length = frames := by
    unfold Run.bracket
    cases hresult : body'.run (start machine) with
    | ok value after => exact hfinish after (by rwa [hresult] at hlength)
    | error fault after => exact hfinish after (by rwa [hresult] at hlength)
  refine ⟨?_, hfinal, ?_⟩
  · change Option.bind (body (start machine)) _ = ofRun (Run.bracket start finish body'.run) machine
    rw [hrun, ofRun, ofRun, Run.bracket]
    cases body'.run (start machine) <;> rfl
  · change ∀ moment ∈ _ :: body'.moments (start machine) ++ [_], _
    rw [List.cons_append, List.forall_mem_cons, List.forall_mem_append, List.forall_mem_singleton]
    refine ⟨?_, hmoments, ?_⟩
    · rw [hstart machine hmachine]
      exact hinner
    · rw [hfinal]
      exact hframes

theorem holding (hframes : frames ≤ Evaluator.maxDepth + 1) (value : Value) {body : Unbounded α}
    {body' : Watched α} (hbody : Follows frames body body') :
    Follows frames (Unbounded.holding value body) (Watched.holding value body') :=
  bracket hframes hframes (fun _ hmachine => hmachine) (fun _ hmachine => hmachine) hbody

theorem within (hframes : frames < Evaluator.maxDepth + 1) (frame : Frame) {body : Unbounded α}
    {body' : Watched α} (hbody : Follows (frames + 1) body body') :
    Follows frames (Unbounded.within frame body) (Watched.within frame body') := by
  refine bracket hframes.le hframes ?_ ?_ hbody
  · intro machine hmachine
    exact congrArg Nat.succ hmachine
  · intro machine hmachine
    rw [List.length_tail, hmachine, Nat.succ_sub_one]

end Follows

end Unbounded

namespace UnboundedEvaluator

open Evaluator

theorem evaluateHolding_eq (settings : Settings) (value : Value)
    (expression : Expression) : evaluateHolding settings value expression =
      .holding value (evaluate settings expression) := by
  funext machine
  rw [evaluateHolding]
  rfl

theorem evaluateAllHolding_eq (settings : Settings) (value : Value)
    (expressions : List Expression) : evaluateAllHolding settings value expressions =
      .holding value (evaluateAll settings expressions) := by
  funext machine
  rw [evaluateAllHolding]
  rfl

theorem evaluateFieldsHolding_eq (settings : Settings) (value : Value)
    (fields : List (String × Expression)) : evaluateFieldsHolding settings value fields =
      .holding value (evaluateFields settings fields) := by
  funext machine
  rw [evaluateFieldsHolding]
  rfl

theorem executeWithin_eq (settings : Settings) (frame : Frame) (body : List Statement) :
    executeWithin settings frame body = .within frame (executeBlock settings body) := by
  funext machine
  rw [executeWithin]
  rfl

theorem callFunction_apply (settings : Settings) (function : Function)
    (arguments : List Value) (span : Option Span) (machine : Machine) :
    callFunction settings function arguments span machine =
      if maxDepth < machine.frames.length then
        some (.error (.runtime (.stackOverflow function.name) span), machine)
      else enterFunction settings function arguments span machine := by
  rw [callFunction]
  change (if maxDepth < machine.frames.length then
    .ofRun (Run.fail (.stackOverflow function.name) span)
      else enterFunction settings function arguments span : Unbounded Value) machine = _
  split <;> rfl

end UnboundedEvaluator

namespace Evaluator

section Syntax

variable {settings : Settings} {call : WatchedCaller} {frames : Nat}

theorem follows_strict (hframes : 0 < frames ∧ frames ≤ maxDepth + 1) {span : Span}
    {operator : BinaryOperator} {left right : Expression}
    (hand : operator ≠ .and) (hor : operator ≠ .or)
    (hleft : Unbounded.Follows frames (UnboundedEvaluator.evaluate settings left)
      (Watch.evaluate settings call left))
    (hright : Unbounded.Follows frames (UnboundedEvaluator.evaluate settings right)
      (Watch.evaluate settings call right)) :
    Unbounded.Follows frames
      (UnboundedEvaluator.evaluate settings (.binary span operator left right))
      (Watch.evaluate settings call (.binary span operator left right)) := by
  rw [UnboundedEvaluator.evaluate, Watch.evaluate]
  · refine hleft.bind fun first => ?_
    rw [UnboundedEvaluator.evaluateHolding_eq]
    refine (hright.holding hframes.2 first).bind fun second => ?_
    exact .step hframes _ (.lift _ _)
  all_goals assumption

theorem follows_notCallable (hframes : 0 < frames ∧ frames ≤ maxDepth + 1) {span : Span}
    {callee : Expression} {arguments : List Expression}
    (hvariable : ∀ span name, callee ≠ .variable span name)
    (hmember : ∀ span receiver name, callee ≠ .member span receiver name) :
    Unbounded.Follows frames (UnboundedEvaluator.evaluate settings (.call span callee arguments))
      (Watch.evaluate settings call (.call span callee arguments)) := by
  rw [UnboundedEvaluator.evaluate, Watch.evaluate]
  · exact .step hframes _ (.fail _ _)
  all_goals assumption

/-- Calls without a bound follow calls under watch, where the stack holds a number of frames. -/
def CallsFollow (settings : Settings) (frames : Nat) (call : WatchedCaller) : Prop :=
  ∀ function arguments span,
    Unbounded.Follows frames (UnboundedEvaluator.callFunction settings function arguments span)
      (call function arguments span)

theorem follows_callNamed (hframes : 0 < frames ∧ frames ≤ maxDepth + 1)
    (hcall : CallsFollow settings frames call) (span : Span) (name : String)
    (arguments : List Value) :
    Unbounded.Follows frames (UnboundedEvaluator.callNamed settings span name arguments)
      (Watch.callNamed settings call span name arguments) := by
  rw [UnboundedEvaluator.callNamed, Watch.callNamed]
  cases Builtin.ofName? name with
  | some builtin => exact .step hframes _ (.bind (.lift _ _) fun _ => .withContext _)
  | none =>
      refine .bind .state fun machine => ?_
      cases machine.functions.get? name with
      | some function => exact hcall function arguments (some span)
      | none => exact .step hframes _ (.fail _ _)

mutual

theorem follows_evaluate (hframes : 0 < frames ∧ frames ≤ maxDepth + 1)
    (hcall : CallsFollow settings frames call) : ∀ expression : Expression,
    Unbounded.Follows frames (UnboundedEvaluator.evaluate settings expression)
      (Watch.evaluate settings call expression)
  | .literal _ value => by
      rw [UnboundedEvaluator.evaluate, Watch.evaluate]
      exact .pure _
  | .variable span name => by
      rw [UnboundedEvaluator.evaluate, Watch.evaluate]
      exact .step hframes _ (keeps_readVariable span name)
  | .array _ items => by
      rw [UnboundedEvaluator.evaluate, Watch.evaluate]
      refine (follows_evaluateAll hframes hcall items).bind fun values => ?_
      exact .step hframes _ (keeps_alloc _)
  | .table _ entries => by
      rw [UnboundedEvaluator.evaluate, Watch.evaluate]
      refine (follows_evaluateFields hframes hcall entries).bind fun values => ?_
      exact .step hframes _ (keeps_alloc _)
  | .call span (.variable _ name) arguments => by
      rw [UnboundedEvaluator.evaluate, Watch.evaluate]
      refine (follows_evaluateAll hframes hcall arguments).bind fun values => ?_
      exact follows_callNamed hframes hcall span name values
  | .call span (.member _ receiver name) arguments => by
      rw [UnboundedEvaluator.evaluate, Watch.evaluate]
      refine (follows_evaluate hframes hcall receiver).bind fun value => ?_
      rw [UnboundedEvaluator.evaluateAllHolding_eq]
      have harguments := follows_evaluateAll hframes hcall arguments
      refine (harguments.holding hframes.2 value).bind fun values => ?_
      exact .step hframes _ (.bind (keeps_object _ _ _) fun _ => keeps_callMethod _ _ _ _)
  | .call span (.literal ..) arguments => follows_notCallable hframes (by simp) (by simp)
  | .call span (.array ..) arguments => follows_notCallable hframes (by simp) (by simp)
  | .call span (.table ..) arguments => follows_notCallable hframes (by simp) (by simp)
  | .call span (.call ..) arguments => follows_notCallable hframes (by simp) (by simp)
  | .call span (.binary ..) arguments => follows_notCallable hframes (by simp) (by simp)
  | .call span (.unary ..) arguments => follows_notCallable hframes (by simp) (by simp)
  | .member span receiver name => by
      rw [UnboundedEvaluator.evaluate, Watch.evaluate]
      refine (follows_evaluate hframes hcall receiver).bind fun value => ?_
      exact .step hframes _ (.bind (keeps_object _ _ _) fun _ => keeps_getMember _ _ _)
  | .binary span operator left right => by
      have hleft := follows_evaluate hframes hcall left
      have hright := follows_evaluate hframes hcall right
      by_cases hand : operator = .and
      · rw [hand, UnboundedEvaluator.evaluate, Watch.evaluate]
        refine hleft.bind fun first => ?_
        refine .bind (.step hframes _ (keeps_truth _ _)) fun holds => ?_
        cases holds with
        | true =>
            refine hright.bind fun second => ?_
            exact .bind (.step hframes _ (keeps_truth _ _)) fun _ => .pure _
        | false => exact .pure _
      by_cases hor : operator = .or
      · rw [hor, UnboundedEvaluator.evaluate, Watch.evaluate]
        refine hleft.bind fun first => ?_
        refine .bind (.step hframes _ (keeps_truth _ _)) fun holds => ?_
        cases holds with
        | true => exact .pure _
        | false =>
            refine hright.bind fun second => ?_
            exact .bind (.step hframes _ (keeps_truth _ _)) fun _ => .pure _
      · exact follows_strict hframes hand hor hleft hright
  | .unary span operator operand => by
      rw [UnboundedEvaluator.evaluate, Watch.evaluate]
      refine (follows_evaluate hframes hcall operand).bind fun value => ?_
      exact .step hframes _ (.lift _ _)

theorem follows_evaluateAll (hframes : 0 < frames ∧ frames ≤ maxDepth + 1)
    (hcall : CallsFollow settings frames call) : ∀ expressions : List Expression,
    Unbounded.Follows frames (UnboundedEvaluator.evaluateAll settings expressions)
      (Watch.evaluateAll settings call expressions)
  | [] => by
      rw [UnboundedEvaluator.evaluateAll, Watch.evaluateAll]
      exact .pure _
  | expression :: rest => by
      rw [UnboundedEvaluator.evaluateAll, Watch.evaluateAll]
      refine (follows_evaluate hframes hcall expression).bind fun value => ?_
      rw [UnboundedEvaluator.evaluateAllHolding_eq]
      exact ((follows_evaluateAll hframes hcall rest).holding hframes.2 value).bind fun _ => .pure _

theorem follows_evaluateFields (hframes : 0 < frames ∧ frames ≤ maxDepth + 1)
    (hcall : CallsFollow settings frames call) : ∀ fields : List (String × Expression),
    Unbounded.Follows frames (UnboundedEvaluator.evaluateFields settings fields)
      (Watch.evaluateFields settings call fields)
  | [] => by
      rw [UnboundedEvaluator.evaluateFields, Watch.evaluateFields]
      exact .pure _
  | (name, expression) :: rest => by
      rw [UnboundedEvaluator.evaluateFields, Watch.evaluateFields]
      refine (follows_evaluate hframes hcall expression).bind fun value => ?_
      rw [UnboundedEvaluator.evaluateFieldsHolding_eq]
      have hrest := follows_evaluateFields hframes hcall rest
      exact (hrest.holding hframes.2 value).bind fun _ => .pure _

end

mutual

theorem follows_execute (hframes : 0 < frames ∧ frames ≤ maxDepth + 1)
    (hcall : CallsFollow settings frames call) : ∀ statement : Statement,
    Unbounded.Follows frames (UnboundedEvaluator.execute settings statement)
      (Watch.execute settings call statement)
  | .library _ _ => by
      rw [UnboundedEvaluator.execute, Watch.execute]
      exact .pure _
  | .print _ values => by
      rw [UnboundedEvaluator.execute, Watch.execute]
      refine (follows_evaluateAll hframes hcall values).bind fun values => ?_
      exact .bind (.step hframes _ (.modify fun _ _ => rfl)) fun _ => .pure _
  | .assign _ name value => by
      rw [UnboundedEvaluator.execute, Watch.execute]
      refine (follows_evaluate hframes hcall value).bind fun value => ?_
      exact .bind (.step hframes _ (keeps_assign name value)) fun _ => .pure _
  | .assignMember span receiver name value => by
      rw [UnboundedEvaluator.execute, Watch.execute]
      refine (follows_evaluate hframes hcall value).bind fun value => ?_
      rw [UnboundedEvaluator.evaluateHolding_eq]
      have hreceiver := follows_evaluate hframes hcall receiver
      refine (hreceiver.holding hframes.2 value).bind fun target => ?_
      refine .bind (.step hframes _ ?_) fun _ => .pure _
      exact .bind (keeps_object _ _ _) fun _ => keeps_setMember _ _ _ _
  | .expression _ value => by
      rw [UnboundedEvaluator.execute, Watch.execute]
      exact (follows_evaluate hframes hcall value).bind fun _ => .pure _
  | .conditional _ branches none => by
      rw [UnboundedEvaluator.execute, Watch.execute]
      refine (follows_executeBranches hframes hcall branches).bind fun flow => ?_
      cases flow with
      | some flow => exact .pure _
      | none => exact .pure _
  | .conditional _ branches (some body) => by
      rw [UnboundedEvaluator.execute, Watch.execute]
      refine (follows_executeBranches hframes hcall branches).bind fun flow => ?_
      cases flow with
      | some flow => exact .pure _
      | none => exact follows_executeBlock hframes hcall body
  | .function _ name parameters body _ => by
      rw [UnboundedEvaluator.execute, Watch.execute]
      exact .bind (.step hframes _ (.modify fun _ _ => rfl)) fun _ => .pure _
  | .return _ none => by
      rw [UnboundedEvaluator.execute, Watch.execute]
      exact .pure _
  | .return _ (some value) => by
      rw [UnboundedEvaluator.execute, Watch.execute]
      exact (follows_evaluate hframes hcall value).bind fun _ => .pure _
  | .component _ name base fields => by
      rw [UnboundedEvaluator.execute, Watch.execute]
      refine (follows_evaluateFields hframes hcall fields).bind fun values => ?_
      exact .bind (.step hframes _ (.withContext _)) fun _ => .pure _

theorem follows_executeBranches (hframes : 0 < frames ∧ frames ≤ maxDepth + 1)
    (hcall : CallsFollow settings frames call) : ∀ branches : List (Expression × List Statement),
    Unbounded.Follows frames (UnboundedEvaluator.executeBranches settings branches)
      (Watch.executeBranches settings call branches)
  | [] => by
      rw [UnboundedEvaluator.executeBranches, Watch.executeBranches]
      exact .pure _
  | (condition, body) :: rest => by
      rw [UnboundedEvaluator.executeBranches, Watch.executeBranches]
      refine (follows_evaluate hframes hcall condition).bind fun value => ?_
      refine .bind (.step hframes _ (keeps_truth _ _)) fun holds => ?_
      cases holds with
      | true => exact (follows_executeBlock hframes hcall body).bind fun _ => .pure _
      | false => exact follows_executeBranches hframes hcall rest

theorem follows_executeBlock (hframes : 0 < frames ∧ frames ≤ maxDepth + 1)
    (hcall : CallsFollow settings frames call) : ∀ statements : List Statement,
    Unbounded.Follows frames (UnboundedEvaluator.executeBlock settings statements)
      (Watch.executeBlock settings call statements)
  | [] => by
      rw [UnboundedEvaluator.executeBlock, Watch.executeBlock]
      exact .pure _
  | statement :: rest => by
      rw [UnboundedEvaluator.executeBlock, Watch.executeBlock]
      refine (follows_execute hframes hcall statement).bind fun flow => ?_
      cases flow with
      | «return» value => exact .pure _
      | next =>
          refine .bind (.step hframes _ (keeps_collect settings)) fun _ => ?_
          exact follows_executeBlock hframes hcall rest

end

end Syntax

variable {settings : Settings}

theorem follows_enterFunction {frames depth : Nat} (hframes : 0 < frames ∧ frames < maxDepth + 1)
    (hcall : CallsFollow settings (frames + 1) (Watch.callWithin settings depth))
    (function : Function) (arguments : List Value) (span : Option Span) :
    Unbounded.Follows frames (UnboundedEvaluator.enterFunction settings function arguments span)
      (Watch.callWithin settings (depth + 1) function arguments span) := by
  rw [UnboundedEvaluator.enterFunction, Watch.callWithin]
  split
  · exact .step ⟨hframes.1, hframes.2.le⟩ _ (.fail _ _)
  · have hbody := follows_executeBlock ⟨Nat.succ_pos _, hframes.2⟩ hcall function.body
    dsimp only
    rw [UnboundedEvaluator.executeWithin_eq]
    refine (hbody.within hframes.2 _).bind fun flow => ?_
    cases flow <;> exact .pure _

theorem callsFollow_callWithin {frames depth : Nat} (hframes : 0 < frames)
    (hdepth : depth + frames = maxDepth + 1) :
    CallsFollow settings frames (Watch.callWithin settings depth) := by
  -- one frame more, one call less to nest: the sum stays at the limit
  induction depth generalizing frames with
  | zero =>
      intro function arguments span machine hmachine
      rw [UnboundedEvaluator.callFunction_apply, if_pos (by omega)]
      exact Unbounded.Follows.step ⟨hframes, by omega⟩ arguments (.fail _ span) machine hmachine
  | succ depth ih =>
      intro function arguments span machine hmachine
      have henter := UnboundedEvaluator.callFunction_apply settings function arguments span machine
      rw [if_neg (by omega)] at henter
      rw [henter]
      have hcall := ih (Nat.succ_pos frames) (by omega)
      exact follows_enterFunction ⟨hframes, by omega⟩ hcall function arguments span machine hmachine

theorem callsFollow_callFunction : CallsFollow settings 1 (Watch.callFunction settings) :=
  callsFollow_callWithin Nat.one_pos rfl

theorem keeps_addResult (value : Value) : (addResult value).Keeps :=
  .modify fun _ _ => rfl

theorem follows_executeProgram (statements : List Statement) :
    Unbounded.Follows 1 (UnboundedEvaluator.executeProgram settings statements)
      (Watch.executeProgram settings statements) := by
  have hframes : 0 < 1 ∧ 1 ≤ maxDepth + 1 := by decide
  induction statements using Watch.executeProgram.induct with
  | case1 => exact .pure _
  | case2 span expression rest ih =>
      rw [UnboundedEvaluator.executeProgram, Watch.executeProgram]
      refine (follows_evaluate hframes callsFollow_callFunction expression).bind fun value => ?_
      refine .bind (.step hframes _ (keeps_addResult _)) fun _ => ?_
      exact .bind (.step hframes _ (keeps_collect settings)) fun _ => ih
  | case3 statement rest hother ih =>
      rw [UnboundedEvaluator.executeProgram, Watch.executeProgram]
      · refine (follows_execute hframes callsFollow_callFunction statement).bind fun flow => ?_
        cases flow with
        | «return» value => exact .bind (.step hframes _ (keeps_addResult _)) fun _ => .pure _
        | next =>
            refine .bind (.step hframes _ (keeps_addResult _)) fun _ => ?_
            exact .bind (.step hframes _ (keeps_collect settings)) fun _ => ih
      all_goals assumption

theorem follows_callEntry :
    Unbounded.Follows 1 (UnboundedEvaluator.callEntry settings) (Watch.callEntry settings) := by
  have hframes : 0 < 1 ∧ 1 ≤ maxDepth + 1 := by decide
  unfold UnboundedEvaluator.callEntry Watch.callEntry
  refine .bind .state fun machine => ?_
  cases entryPoints.findSome? machine.functions.get? with
  | none => exact .pure _
  | some function =>
      dsimp only
      have hcall := @callsFollow_callFunction settings function
      generalize function.parameters = parameters
      rcases parameters with _ | ⟨parameter, _ | ⟨other, rest⟩⟩
      · exact (hcall _ _).bind fun _ => .step hframes _ (keeps_addResult _)
      · exact (hcall _ _).bind fun _ => .step hframes _ (keeps_addResult _)
      · exact .step hframes _ (.fail _ _)

theorem follows_runProgram (statements : List Statement) :
    Unbounded.Follows 1 (UnboundedEvaluator.runProgram settings statements)
      (Watch.runProgram settings statements) := by
  have hhoist : Run.Keeps (modify (hoist · statements)) :=
    .modify fun machine _ => by rw [frames_hoist]
  refine .bind (.step (by decide) _ hhoist) fun _ => ?_
  refine (follows_executeProgram statements).bind fun reached => ?_
  cases reached with
  | true => exact follows_callEntry
  | false => exact .pure _

end Evaluator

end BrightScript
