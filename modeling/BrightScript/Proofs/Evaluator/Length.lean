import BrightScript.Proofs.Evaluator.Fitting
import BrightScript.Proofs.Evaluator.Watched

namespace BrightScript

/-- A text is held at a moment: by a variable, in the midst of a computation, as a result, by a
component, as the first value of a field, or in hand. -/
inductive Moment.Contains (moment : Moment) (text : String) : Prop
  | frame {frame : Frame} (hframe : frame ∈ moment.machine.frames)
      (hvalue : .text text ∈ frame.values)
  | temporary (hvalue : .text text ∈ moment.machine.temporaries)
  | result (hvalue : .text text ∈ moment.machine.results)
  | component {handle : Handle} {component : Component}
      (hcomponent : moment.machine.context.heap.get? handle = some component)
      (htext : text ∈ component.texts)
  | default {definition : NodeDefinition}
      (hdefinition : definition ∈ moment.machine.context.catalog.definitions.values)
      (hvalue : .text text ∈ definition.fields.map Prod.snd)
  | inHand (hvalue : .text text ∈ moment.inHand)

/-- An operation that is called by one of some names, and does not ask how long its text gets,
builds a text out of the values that are in hand at a moment. -/
inductive Moment.Builds (called : List String) (moment : Moment) (text : String) : Prop
  | method {receiver : Handle} {name : String} {arguments : List Value}
      (hhand : moment.inHand = .object receiver :: arguments) (hcalled : Name.key name ∈ called)
      (hname : Name.key name ∈ uncheckedMethods)
      (hresult : (RunContext.timed (Evaluator.callOn receiver name arguments)
        moment.machine.context).1 = .ok (.text text))
  | upper {argument : String} (hcalled : "ucase" ∈ called)
      (hhand : moment.inHand = [.text argument]) (htext : Text.upper argument = text)
  | lower {argument : String} (hcalled : "lcase" ∈ called)
      (hhand : moment.inHand = [.text argument]) (htext : Text.lower argument = text)

/-- Of the texts that are held at some moments, those that are built without a check are not too
long. -/
def BuiltFit (called : List String) (passed : List Moment) : Prop :=
  ∀ text, (∃ moment ∈ passed, moment.Contains text) →
    (∃ moment ∈ passed, moment.Builds called text) → Text.Fits text

/-- None of the texts that are held at some moments is too long. -/
def TextsFit (passed : List Moment) : Prop :=
  ∀ moment ∈ passed, ∀ text, moment.Contains text → Text.Fits text

/-- Where nothing is called that builds texts without a check, no such texts are built. -/
theorem BuiltFit.of_checked {called : List String}
    (hcalled : ∀ name ∈ called, name ∉ uncheckedMethods) (passed : List Moment) :
    BuiltFit called passed := by
  rintro text - ⟨moment, -, hbuilds⟩
  cases hbuilds with
  | method _ hname hunchecked => exact absurd hunchecked (hcalled _ hname)
  | upper hname => exact absurd (by decide) (hcalled _ hname)
  | lower hname => exact absurd (by decide) (hcalled _ hname)

/-- A value is no text that is too long, if it is held at one of some moments. -/
def Value.FitsHeld (passed : List Moment) (value : Value) : Prop :=
  ∀ text, value = .text text → (∃ moment ∈ passed, moment.Contains text) → Text.Fits text

theorem Value.Fits.held {value : Value} (hvalue : value.Fits) (passed : List Moment) :
    value.FitsHeld passed := by
  intro text htext _
  subst htext
  exact hvalue

theorem Value.FitsHeld.of_text?_eq_none {passed : List Moment} {value : Value}
    (hvalue : value.text? = none) : value.FitsHeld passed := by
  rintro text rfl
  cases hvalue

theorem Value.FitsHeld.fits {passed : List Moment} {value : Value} (hvalue : value.FitsHeld passed)
    {moment : Moment} (hmoment : moment ∈ passed)
    (hcontains : ∀ text, value = .text text → moment.Contains text) : value.Fits := by
  cases value with
  | text text => exact hvalue text rfl ⟨moment, hmoment, hcontains text rfl⟩
  | _ => exact trivial

/-- None of the texts that are held at a moment is too long. -/
def Moment.Fits (called : List String) (moment : Moment) : Prop :=
  moment.machine.Fits called ∧ ∀ value ∈ moment.inHand, value.Fits

theorem Moment.Fits.of_contains {called : List String} {moment : Moment}
    (hmoment : moment.Fits called) {text : String}
    (hcontains : moment.Contains text) : Text.Fits text := by
  obtain ⟨hmachine, hhand⟩ := hmoment
  cases hcontains with
  | frame hframe hvalue => exact hmachine.frames _ hframe _ hvalue
  | temporary hvalue => exact hmachine.temporaries _ hvalue
  | result hvalue => exact hmachine.results _ hvalue
  | component hcomponent htext =>
      exact Heap.all_iff.mp hmachine.context.heap _ _ hcomponent text htext
  | default hdefinition hvalue =>
      obtain ⟨field, hfield, hsame⟩ := List.mem_map.mp hvalue
      have hfits := ((hmachine.context.catalog _ hdefinition).2 field hfield).2
      rw [hsame] at hfits
      exact hfits
  | inHand hvalue => exact hhand _ hvalue

namespace Watched

open Procedure

variable {α β : Type} {called : List String} {passed : List Moment} {post : α → Prop}

/-- From texts that are not too long a computation, as far as it passes some moments, comes only to
texts that are not, and ends with a value that has a property. -/
def Keeps (called : List String) (passed : List Moment) (post : α → Prop)
    (computation : Watched α) : Prop :=
  ∀ machine : Machine, machine.Fits called →
    (∀ moment ∈ computation.moments machine, moment ∈ passed) →
    (∀ moment ∈ computation.moments machine, moment.Fits called) ∧
      Ends (Machine.Fits called) post (computation.run machine)

theorem final_of_ends {result : EStateM.Result Fault Machine α}
    (hends : Ends (Machine.Fits called) post result) : (Run.final result).Fits called := by
  cases result with
  | ok value after => exact hends.1
  | error fault after => exact hends

namespace Keeps

theorem pure {value : α} (hvalue : post value) : Keeps called passed post (Pure.pure value) :=
  fun _ hmachine _ => ⟨List.forall_mem_nil _, hmachine, hvalue⟩

theorem bind {first : Watched α} {next : α → Watched β} {last : β → Prop}
    (hfirst : Keeps called passed post first)
    (hnext : ∀ value, post value → Keeps called passed last (next value)) :
    Keeps called passed last (first >>= next) := by
  intro machine hmachine hpassed
  obtain ⟨hbefore, hafter⟩ := List.forall_mem_append.mp hpassed
  obtain ⟨hmoments, hends⟩ := hfirst machine hmachine hbefore
  change (∀ moment ∈ first.moments machine ++ _, moment.Fits called) ∧
    Ends (Machine.Fits called) last
      (EStateM.bind first.run (fun value => (next value).run) machine)
  unfold EStateM.bind
  cases hrun : first.run machine with
  | ok value after =>
      rw [hrun] at hends hafter
      obtain ⟨hlater, hlast⟩ := hnext value hends.2 after hends.1 hafter
      exact ⟨List.forall_mem_append.mpr ⟨hmoments, hlater⟩, hlast⟩
  | error fault after =>
      rw [hrun] at hends
      exact ⟨List.forall_mem_append.mpr ⟨hmoments, List.forall_mem_nil _⟩, hends⟩

theorem andThen {first : Watched α} {next : α → Watched β} {last : β → Prop}
    (hfirst : Keeps called passed (fun _ => True) first)
    (hnext : ∀ value, Keeps called passed last (next value)) :
    Keeps called passed last (first >>= next) :=
  hfirst.bind fun value _ => hnext value

theorem step {inHand : List Value} {run : Run α} (hhand : ∀ value ∈ inHand, value.FitsHeld passed)
    (hrun : ∀ machine : Machine, machine.Fits called → ⟨machine, inHand⟩ ∈ passed →
      (∀ value ∈ inHand, value.Fits) → Ends (Machine.Fits called) post (run machine)) :
    Keeps called passed post (Watched.step inHand run) := by
  intro machine hmachine hpassed
  have hhere := hpassed ⟨machine, inHand⟩ List.mem_cons_self
  have hfits : ∀ value ∈ inHand, value.Fits := fun value hvalue =>
    (hhand value hvalue).fits hhere fun text htext => .inHand (htext ▸ hvalue)
  have hends := hrun machine hmachine hhere hfits
  refine ⟨List.forall_mem_cons.mpr ⟨⟨hmachine, hfits⟩, List.forall_mem_singleton.mpr ?_⟩, hends⟩
  exact ⟨final_of_ends hends, List.forall_mem_nil _⟩

theorem fits_step {inHand : List Value} {run : Run Value}
    (hhand : ∀ value ∈ inHand, value.FitsHeld passed)
    (hrun : (∀ value ∈ inHand, value.Fits) → Procedure.Keeps (Machine.Fits called) Value.Fits run) :
    Keeps called passed (Value.FitsHeld passed) (Watched.step inHand run) := by
  refine step hhand fun machine hmachine _ hfits => ?_
  have hends := hrun hfits machine hmachine
  revert hends
  cases run machine with
  | ok value after => exact fun hends => ⟨hends.1, hends.2.held passed⟩
  | error fault after => exact id

theorem change {inHand : List Value} {effect : Machine → Machine}
    (hhand : ∀ value ∈ inHand, value.FitsHeld passed)
    (heffect : ∀ machine : Machine, machine.Fits called → (∀ value ∈ inHand, value.Fits) →
      (effect machine).Fits called) :
    Keeps called passed (fun _ => True) (Watched.step inHand (modify effect)) :=
  step hhand fun machine hmachine _ hfits => ⟨heffect machine hmachine hfits, trivial⟩

theorem state_bind {next : Machine → Watched β} {last : β → Prop}
    (hnext : ∀ machine : Machine, machine.Fits called → Keeps called passed last (next machine)) :
    Keeps called passed last (Watched.state >>= next) :=
  fun machine hmachine hpassed => hnext machine hmachine machine hmachine hpassed

theorem bracket {start finish : Machine → Machine} {body : Watched α}
    (hstart : ∀ machine : Machine, machine.Fits called → ⟨start machine, []⟩ ∈ passed →
      (start machine).Fits called)
    (hfinish : ∀ machine : Machine, machine.Fits called → (finish machine).Fits called)
    (hbody : Keeps called passed post body) :
    Keeps called passed post (Watched.bracket start finish body) := by
  intro machine hmachine hpassed
  obtain ⟨hfront, hlast⟩ := List.forall_mem_append.mp hpassed
  obtain ⟨hfirst, hinside⟩ := List.forall_mem_cons.mp hfront
  have hbegun := hstart machine hmachine hfirst
  obtain ⟨hmoments, hends⟩ := hbody (start machine) hbegun hinside
  have hended : Ends (Machine.Fits called) post (Run.bracket start finish body.run machine) := by
    unfold Run.bracket
    revert hends
    cases body.run (start machine) with
    | ok value after => exact fun hends => ⟨hfinish after hends.1, hends.2⟩
    | error fault after => exact hfinish after
  refine ⟨List.forall_mem_append.mpr ⟨List.forall_mem_cons.mpr ⟨?_, hmoments⟩, ?_⟩, hended⟩
  · exact ⟨hbegun, List.forall_mem_nil _⟩
  · exact List.forall_mem_singleton.mpr ⟨final_of_ends hended, List.forall_mem_nil _⟩

theorem holding {value : Value} (hvalue : value.FitsHeld passed) {body : Watched α}
    (hbody : Keeps called passed post body) :
    Keeps called passed post (Watched.holding value body) := by
  refine bracket (fun machine hmachine hhere => ?_) (fun machine hmachine => ?_) hbody
  · have hfits : value.Fits := hvalue.fits hhere fun text htext =>
      .temporary (htext ▸ List.mem_cons_self)
    exact { hmachine with temporaries := List.forall_mem_cons.mpr ⟨hfits, hmachine.temporaries⟩ }
  · exact { hmachine with
      temporaries := fun value hvalue => hmachine.temporaries value (List.mem_of_mem_tail hvalue) }

theorem within {frame : Frame} (hframe : ∀ value ∈ frame.values, value.FitsHeld passed)
    {body : Watched α} (hbody : Keeps called passed post body) :
    Keeps called passed post (Watched.within frame body) := by
  refine bracket (fun machine hmachine hhere => ?_) (fun machine hmachine => ?_) hbody
  · have hfits : ∀ value ∈ frame.values, value.Fits := fun value hvalue =>
      (hframe value hvalue).fits hhere fun text htext =>
        .frame List.mem_cons_self (htext ▸ hvalue)
    exact { hmachine with frames := List.forall_mem_cons.mpr ⟨hfits, hmachine.frames⟩ }
  · exact { hmachine with
      frames := fun frame hframe => hmachine.frames frame (List.mem_of_mem_tail hframe) }

end Keeps

end Watched

namespace Evaluator

open Procedure

variable {settings : Settings} {called : List String} {passed : List Moment}

theorem evaluate_add_of_lt {call : Caller} {span : Span}
    {left right : Expression} {machine between after : Machine} {first second : String}
    (hleft : evaluate settings call left machine = .ok (.text first) between)
    (hright : Run.holding (.text first) (evaluate settings call right) between =
      .ok (.text second) after)
    (hlong : maxTextBytes < first.utf8ByteSize + second.utf8ByteSize) :
    evaluate settings call (.binary span .add left right) machine =
      .error (.runtime .textTooLong (some span)) after := by
  rw [evaluate, Procedure.bind_ok hleft, Procedure.bind_ok hright]
  · have hresult : Operator.binary .add (.text first) (.text second) = .error .textTooLong :=
      Operator.concatenate_of_lt hlong
    rw [hresult]
    rfl
  · simp
  · simp

theorem ends_callMethod (hbuilt : BuiltFit called passed) (span : Span) {receiver : Handle}
    {name : String} (hcalled : Name.key name ∈ called) {arguments : List Value} {machine : Machine}
    (hmachine : machine.Fits called)
    (hhere : ⟨machine, .object receiver :: arguments⟩ ∈ passed)
    (harguments : ∀ argument ∈ arguments, argument.Fits) :
    Ends (Machine.Fits called) (Value.FitsHeld passed)
      (callMethod span receiver name arguments machine) := by
  have hticked := hmachine.context.tick
  obtain ⟨hheap, hgiven⟩ := Heap.fits_callMethod hticked.heap hticked.catalog receiver name
    harguments
  have hafter : Machine.Fits called { machine with
      context := (RunContext.timed (callOn receiver name arguments) machine.context).2 } :=
    { hmachine with context := { hticked with heap := hheap } }
  refine Run.keeps_lift (fun value hvalue => ?_) _ hafter
  rw [mapError_eq_ok_iff] at hvalue
  by_cases hname : Name.key name ∈ uncheckedMethods
  · intro text htext hheld
    subst htext
    exact hbuilt text hheld ⟨_, hhere, .method rfl hcalled hname hvalue⟩
  · exact (hgiven value hvalue hname).held passed

theorem ends_case {change : String → String} {name : String} {arguments : List Value}
    {machine : Machine} {action : Builtin.Action} (hmachine : machine.Fits called)
    (haction : (do
      Builtin.expect name arguments 1
      .ok (Builtin.give (.text (change (← Builtin.text name arguments 0))))) = .ok action)
    (hchange : ∀ text, arguments = [.text text] → Value.FitsHeld passed (.text (change text))) :
    Ends (Machine.Fits called) (Value.FitsHeld passed) (Run.withContext action machine) := by
  obtain ⟨_, hlength, haction⟩ := bind_eq_ok_iff.mp haction
  obtain ⟨text, htext, haction⟩ := bind_eq_ok_iff.mp haction
  cases haction
  obtain ⟨argument, rfl⟩ := List.length_eq_one_iff.mp (Builtin.expect_eq_ok_iff.mp hlength)
  cases Builtin.text_eq_ok_iff.mp htext
  exact ⟨hmachine, hchange text rfl⟩

theorem ends_builtin (hregistry : settings.registry.All Constructor.MakesFitting)
    (hbuilt : BuiltFit called passed) (span : Span) {function : Builtin}
    {name : String} (hfunction : Builtin.ofName? name = some function)
    (hcalled : Name.key name ∈ called) {arguments : List Value} {machine : Machine}
    (hmachine : machine.Fits called) (hhere : ⟨machine, arguments⟩ ∈ passed)
    (harguments : ∀ argument ∈ arguments, argument.Fits) :
    Ends (Machine.Fits called) (Value.FitsHeld passed) ((do
      Run.withContext (← Run.lift span (function.call settings.registry name arguments)))
        machine) := by
  cases haction : function.call settings.registry name arguments with
  | error error => exact hmachine
  | ok action =>
      change Ends (Machine.Fits called) (Value.FitsHeld passed) (Run.withContext action machine)
      by_cases hupper : function = .upper
      · subst hupper
        refine ends_case hmachine haction fun text htext found hfound hheld => ?_
        cases hfound
        rw [Builtin.key_of_upper hfunction] at hcalled
        exact hbuilt _ hheld ⟨_, hhere, .upper hcalled htext rfl⟩
      by_cases hlower : function = .lower
      · subst hlower
        refine ends_case hmachine haction fun text htext found hfound hheld => ?_
        cases hfound
        rw [Builtin.key_of_lower hfunction] at hcalled
        exact hbuilt _ hheld ⟨_, hhere, .lower hcalled htext rfl⟩
      · refine Run.keeps_withContext (fun context hcontext => ?_) machine hmachine
        have hdone := Builtin.fits_call hregistry hupper hlower harguments haction hcontext
        exact ⟨hdone.1, hdone.2.held passed⟩

/-- Calls keep to the limit. -/
def WatchedCaller.Keeps (called : List String) (passed : List Moment) (call : WatchedCaller) :
    Prop :=
  ∀ (function : Function) (arguments : List Value) (span : Option Span),
    BlockFits called function.body →
    (∀ argument ∈ arguments, argument.FitsHeld passed) →
    Watched.Keeps called passed (Value.FitsHeld passed) (call function arguments span)

/-- What a statement returns is no text that is too long, if it is held at one of some moments. -/
def Flow.FitsHeld (passed : List Moment) : Flow → Prop
  | .next => True
  | .return value => value.FitsHeld passed

namespace Watch

variable {call : WatchedCaller}

/-- What the lengths of texts depend on besides the program: no kind of components and no call makes
texts that are too long, and no text is that was built without a check. -/
structure Bounds (settings : Settings) (called : List String) (passed : List Moment)
    (call : WatchedCaller) : Prop where
  registry : settings.registry.All Constructor.MakesFitting
  built : BuiltFit called passed
  call : call.Keeps called passed

theorem keeps_callNamed (hbounds : Bounds settings called passed call) (span : Span) {name : String}
    (hcalled : Name.key name ∈ called) {arguments : List Value}
    (harguments : ∀ argument ∈ arguments, argument.FitsHeld passed) :
    Watched.Keeps called passed (Value.FitsHeld passed)
      (callNamed settings call span name arguments) := by
  unfold callNamed
  cases hfunction : Builtin.ofName? name with
  | some function =>
      refine .step harguments fun machine hmachine hhere hfits => ?_
      exact ends_builtin hbounds.registry hbounds.built span hfunction hcalled hmachine hhere hfits
  | none =>
      refine .state_bind fun machine hmachine => ?_
      split
      · next function hfunction =>
          exact hbounds.call _ _ _ (hmachine.functions _ (Dictionary.mem_values_of_get? hfunction))
            harguments
      · exact .step harguments fun machine hmachine _ _ => Run.keeps_fail _ _ machine hmachine

theorem keeps_truth (span : Span) {value : Value} (hvalue : value.FitsHeld passed) :
    Watched.Keeps called passed (fun _ => True) (Watched.step [value] (truth span value)) :=
  .step (List.forall_mem_singleton.mpr hvalue) fun machine hmachine _ _ =>
    Evaluator.fits_truth span value machine hmachine

theorem keeps_collect (settings : Settings) :
    Watched.Keeps called passed (fun _ => True) (Watched.step [] (collect settings)) :=
  .change (List.forall_mem_nil _) fun _ hmachine _ => hmachine.collect settings

theorem keeps_strict {span : Span} {operator : BinaryOperator} {left right : Expression}
    (hand : operator ≠ .and) (hor : operator ≠ .or)
    (hleft : Watched.Keeps called passed (Value.FitsHeld passed) (evaluate settings call left))
    (hright : Watched.Keeps called passed (Value.FitsHeld passed) (evaluate settings call right)) :
    Watched.Keeps called passed (Value.FitsHeld passed)
      (evaluate settings call (.binary span operator left right)) := by
  rw [evaluate]
  · refine .bind hleft fun first hfirst => .bind (.holding hfirst hright) fun second hsecond => ?_
    have hboth := List.forall_mem_cons.mpr ⟨hfirst, List.forall_mem_singleton.mpr hsecond⟩
    refine .fits_step hboth fun _ => ?_
    exact Run.keeps_lift fun value hvalue => Operator.fits_binary hvalue
  all_goals assumption

theorem keeps_notCallable {span : Span} {callee : Expression} {arguments : List Expression}
    (hvariable : ∀ span name, callee ≠ .variable span name)
    (hmember : ∀ span receiver name, callee ≠ .member span receiver name) :
    Watched.Keeps called passed (Value.FitsHeld passed)
      (evaluate settings call (.call span callee arguments)) := by
  rw [evaluate]
  · exact .fits_step (List.forall_mem_nil _) fun _ => Run.keeps_fail _ _
  all_goals assumption

mutual

theorem keeps_evaluate (hbounds : Bounds settings called passed call) :
    ∀ expression : Expression, expression.Fits called →
    Watched.Keeps called passed (Value.FitsHeld passed) (evaluate settings call expression)
  | .literal _ value, hfits => by
      rw [evaluate]
      exact .pure (Value.Fits.held hfits passed)
  | .variable span name, _ => by
      rw [evaluate]
      exact .fits_step (List.forall_mem_nil _) fun _ => fits_readVariable span name
  | .array _ items, hfits => by
      rw [evaluate]
      refine .bind (keeps_evaluateAll hbounds items hfits) fun values hvalues => ?_
      refine .fits_step hvalues fun hvalues => Run.keeps_alloc ?_
      exact Component.fits_array.mpr hvalues
  | .table _ entries, hfits => by
      rw [evaluate]
      refine .bind (keeps_evaluateFields hbounds entries hfits) fun values hvalues => ?_
      refine .fits_step (List.forall_mem_map.mpr fun entry hentry => (hvalues entry hentry).2)
        fun hfits => Run.keeps_alloc ?_
      refine Component.fits_table.mpr (Dictionary.fits_ofList fun entry hentry => ?_)
      exact ⟨(hvalues entry hentry).1, List.forall_mem_map.mp hfits entry hentry⟩
  | .call span (.variable _ name) arguments, hfits => by
      rw [evaluate]
      refine .bind (keeps_evaluateAll hbounds arguments hfits.2.2) fun values hvalues => ?_
      exact keeps_callNamed hbounds span hfits.1 hvalues
  | .call span (.member _ receiver name) arguments, hfits => by
      rw [evaluate]
      refine .bind (keeps_evaluate hbounds receiver hfits.2.1) fun value hvalue => ?_
      refine .bind (.holding hvalue (keeps_evaluateAll hbounds arguments hfits.2.2)) ?_
      intro values hvalues
      refine .step (List.forall_mem_cons.mpr ⟨hvalue, hvalues⟩) ?_
      intro machine hmachine hhere hhand
      cases value with
      | object handle =>
          exact ends_callMethod hbounds.built span hfits.1 hmachine hhere
            (List.forall_mem_cons.mp hhand).2
      | _ => exact hmachine
  | .call span (.literal ..) arguments, _ => keeps_notCallable (by simp) (by simp)
  | .call span (.array ..) arguments, _ => keeps_notCallable (by simp) (by simp)
  | .call span (.table ..) arguments, _ => keeps_notCallable (by simp) (by simp)
  | .call span (.call ..) arguments, _ => keeps_notCallable (by simp) (by simp)
  | .call span (.binary ..) arguments, _ => keeps_notCallable (by simp) (by simp)
  | .call span (.unary ..) arguments, _ => keeps_notCallable (by simp) (by simp)
  | .member span receiver name, hfits => by
      rw [evaluate]
      refine .bind (keeps_evaluate hbounds receiver hfits) fun value hvalue => ?_
      refine .fits_step (List.forall_mem_singleton.mpr hvalue) fun _ => ?_
      exact .bind (fits_object span name value) fun handle _ => fits_getMember span handle name
  | .binary span operator left right, hfits => by
      have hleft := keeps_evaluate hbounds left hfits.1
      have hright := keeps_evaluate hbounds right hfits.2
      by_cases hand : operator = .and
      · rw [hand, evaluate]
        refine .bind hleft fun first hfirst => .andThen (keeps_truth _ hfirst) fun holds => ?_
        cases holds with
        | true =>
            exact .bind hright fun second hsecond =>
              .andThen (keeps_truth _ hsecond) fun _ => .pure (.of_text?_eq_none rfl)
        | false => exact .pure (.of_text?_eq_none rfl)
      by_cases hor : operator = .or
      · rw [hor, evaluate]
        refine .bind hleft fun first hfirst => .andThen (keeps_truth _ hfirst) fun holds => ?_
        cases holds with
        | true => exact .pure (.of_text?_eq_none rfl)
        | false =>
            exact .bind hright fun second hsecond =>
              .andThen (keeps_truth _ hsecond) fun _ => .pure (.of_text?_eq_none rfl)
      · exact keeps_strict hand hor hleft hright
  | .unary span operator operand, hfits => by
      rw [evaluate]
      refine .bind (keeps_evaluate hbounds operand hfits) fun value hvalue => ?_
      refine .fits_step (List.forall_mem_singleton.mpr hvalue) fun _ => ?_
      exact Run.keeps_lift fun value hvalue => Operator.fits_unary hvalue

theorem keeps_evaluateAll (hbounds : Bounds settings called passed call) :
    ∀ expressions : List Expression, AllFit called expressions →
    Watched.Keeps called passed (fun values => ∀ value ∈ values, value.FitsHeld passed)
      (evaluateAll settings call expressions)
  | [], _ => by
      rw [evaluateAll]
      exact .pure (List.forall_mem_nil _)
  | expression :: rest, hfits => by
      rw [evaluateAll]
      refine .bind (keeps_evaluate hbounds expression hfits.1) fun value hvalue => ?_
      refine .bind (.holding hvalue (keeps_evaluateAll hbounds rest hfits.2)) ?_
      intro values hvalues
      exact .pure (List.forall_mem_cons.mpr ⟨hvalue, hvalues⟩)

theorem keeps_evaluateFields (hbounds : Bounds settings called passed call) :
    ∀ fields : List (String × Expression), FieldsFit called fields →
    Watched.Keeps called passed
      (fun values => ∀ entry ∈ values, Text.Fits entry.1 ∧ entry.2.FitsHeld passed)
      (evaluateFields settings call fields)
  | [], _ => by
      rw [evaluateFields]
      exact .pure (List.forall_mem_nil _)
  | (name, expression) :: rest, hfits => by
      rw [evaluateFields]
      refine .bind (keeps_evaluate hbounds expression hfits.1.2) fun value hvalue => ?_
      refine .bind (.holding hvalue (keeps_evaluateFields hbounds rest hfits.2)) ?_
      intro values hvalues
      exact .pure (List.forall_mem_cons.mpr ⟨⟨hfits.1.1, hvalue⟩, hvalues⟩)

end

mutual

theorem keeps_execute (hbounds : Bounds settings called passed call) :
    ∀ statement : Statement, statement.Fits called →
    Watched.Keeps called passed (Flow.FitsHeld passed) (execute settings call statement)
  | .library _ _, _ => by
      rw [execute]
      exact .pure trivial
  | .print _ values, hfits => by
      rw [execute]
      refine .bind (keeps_evaluateAll hbounds values hfits) fun values hvalues => ?_
      refine .andThen (.change hvalues fun machine hmachine _ => ?_) fun _ => .pure trivial
      exact { hmachine with context := { hmachine.context with } }
  | .assign _ name value, hfits => by
      rw [execute]
      refine .bind (keeps_evaluate hbounds value hfits) fun value hvalue => ?_
      refine .andThen (.change (List.forall_mem_singleton.mpr hvalue) ?_) fun _ => .pure trivial
      exact fun machine hmachine hhand =>
        hmachine.assign name (List.forall_mem_singleton.mp hhand)
  | .assignMember span receiver name value, hfits => by
      rw [execute]
      refine .bind (keeps_evaluate hbounds value hfits.2.1) fun value hvalue => ?_
      refine .bind (.holding hvalue (keeps_evaluate hbounds receiver hfits.2.2))
        fun target htarget => ?_
      have hboth := List.forall_mem_cons.mpr ⟨htarget, List.forall_mem_singleton.mpr hvalue⟩
      refine .andThen (.step hboth fun machine hmachine _ hhand => ?_) fun _ => .pure trivial
      refine Procedure.Keeps.bind (fits_object span name target) (fun handle _ => ?_) machine
        hmachine
      exact fits_setMember span handle hfits.1 (hhand value (by simp))
  | .expression _ value, hfits => by
      rw [execute]
      exact .bind (keeps_evaluate hbounds value hfits) fun _ _ => .pure trivial
  | .conditional _ branches none, hfits => by
      rw [execute]
      refine .bind (keeps_executeBranches hbounds branches hfits) fun flow hflow => ?_
      cases flow with
      | some flow => exact .pure (hflow flow rfl)
      | none => exact .pure trivial
  | .conditional _ branches (some body), hfits => by
      rw [execute]
      refine .bind (keeps_executeBranches hbounds branches hfits.1) fun flow hflow => ?_
      cases flow with
      | some flow => exact .pure (hflow flow rfl)
      | none => exact keeps_executeBlock hbounds body hfits.2
  | .function _ name parameters body _, hfits => by
      rw [execute]
      refine .andThen (.change (List.forall_mem_nil _) fun machine hmachine _ => ?_) fun _ =>
        .pure trivial
      exact hmachine.declare hfits
  | .return _ none, _ => by
      rw [execute]
      exact .pure (.of_text?_eq_none rfl)
  | .return _ (some value), hfits => by
      rw [execute]
      exact .bind (keeps_evaluate hbounds value hfits) fun _ hvalue => .pure hvalue
  | .component _ name base fields, hfits => by
      rw [execute]
      refine .bind (keeps_evaluateFields hbounds fields hfits.2) ?_
      intro values hvalues
      have hheld := List.forall_mem_map.mpr fun entry hentry => (hvalues entry hentry).2
      refine .andThen (.step hheld fun machine hmachine _ hhand => ?_) fun _ => .pure trivial
      refine Run.keeps_withContext (fun context hcontext => ⟨?_, trivial⟩) machine hmachine
      refine { hcontext with catalog := hcontext.catalog.declare ⟨hfits.1, fun field hfield => ?_⟩ }
      exact ⟨(hvalues field hfield).1, List.forall_mem_map.mp hhand field hfield⟩

theorem keeps_executeBranches (hbounds : Bounds settings called passed call) :
    ∀ branches : List (Expression × List Statement), BranchesFit called branches →
    Watched.Keeps called passed (fun flow => ∀ given ∈ flow, Flow.FitsHeld passed given)
      (executeBranches settings call branches)
  | [], _ => by
      rw [executeBranches]
      exact .pure nofun
  | (condition, body) :: rest, hfits => by
      rw [executeBranches]
      refine .bind (keeps_evaluate hbounds condition hfits.1.1) fun value hvalue => ?_
      refine .andThen (keeps_truth _ hvalue) fun holds => ?_
      cases holds with
      | true =>
          refine .bind (keeps_executeBlock hbounds body hfits.1.2) fun flow hflow => .pure ?_
          exact fun given hgiven => Option.mem_some_iff.mp hgiven ▸ hflow
      | false => exact keeps_executeBranches hbounds rest hfits.2

theorem keeps_executeBlock (hbounds : Bounds settings called passed call) :
    ∀ statements : List Statement, BlockFits called statements →
    Watched.Keeps called passed (Flow.FitsHeld passed) (executeBlock settings call statements)
  | [], _ => by
      rw [executeBlock]
      exact .pure trivial
  | statement :: rest, hfits => by
      rw [executeBlock]
      refine .bind (keeps_execute hbounds statement hfits.1) fun flow hflow => ?_
      cases flow with
      | «return» value => exact .pure hflow
      | next =>
          exact .andThen (keeps_collect settings) fun _ =>
            keeps_executeBlock hbounds rest hfits.2

end

theorem keeps_callWithin (hregistry : settings.registry.All Constructor.MakesFitting)
    (hbuilt : BuiltFit called passed) (depth : Nat) :
    (callWithin settings depth).Keeps called passed := by
  induction depth with
  | zero =>
      intro function arguments span _ harguments
      exact .fits_step harguments fun _ => Run.keeps_fail _ _
  | succ depth ih =>
      intro function arguments span hfunction harguments
      rw [callWithin]
      split
      · exact .fits_step harguments fun _ => Run.keeps_fail _ _
      · refine .bind (.within (fun value hvalue => ?_)
          (keeps_executeBlock ⟨hregistry, hbuilt, ih⟩ function.body hfunction)) fun flow hflow => ?_
        · obtain ⟨entry, hentry, rfl⟩ := List.mem_map.mp (Dictionary.mem_values_ofList hvalue)
          exact harguments entry.2 (List.of_mem_zip hentry).2
        · cases flow with
          | «return» value => exact .pure hflow
          | next => exact .pure (.of_text?_eq_none rfl)

theorem bounds_callFunction (hregistry : settings.registry.All Constructor.MakesFitting)
    (hbuilt : BuiltFit called passed) : Bounds settings called passed (callFunction settings) :=
  ⟨hregistry, hbuilt, keeps_callWithin hregistry hbuilt maxDepth⟩

theorem keeps_addResult {value : Value} (hvalue : value.FitsHeld passed) :
    Watched.Keeps called passed (fun _ => True) (addResult value) := by
  refine .change (List.forall_mem_singleton.mpr hvalue) fun machine hmachine hhand => ?_
  have hfits : value.Fits := List.forall_mem_singleton.mp hhand
  exact { hmachine with results := List.forall_mem_cons.mpr ⟨hfits, hmachine.results⟩ }

theorem keeps_executeProgram (hbounds : Bounds settings called passed (callFunction settings))
    (statements : List Statement) (hfits : BlockFits called statements) :
    Watched.Keeps called passed (fun _ => True) (executeProgram settings statements) := by
  induction statements using executeProgram.induct with
  | case1 => exact .pure trivial
  | case2 span expression rest ih =>
      rw [executeProgram]
      refine .bind (keeps_evaluate hbounds expression hfits.1) fun value hvalue => ?_
      exact .andThen (keeps_addResult hvalue) fun _ =>
        .andThen (keeps_collect settings) fun _ => ih hfits.2
  | case3 statement rest hother ih =>
      rw [executeProgram]
      · refine .bind (keeps_execute hbounds statement hfits.1) fun flow hflow => ?_
        cases flow with
        | «return» value => exact .andThen (keeps_addResult hflow) fun _ => .pure trivial
        | next =>
            exact .andThen (keeps_addResult (.of_text?_eq_none rfl)) fun _ =>
              .andThen (keeps_collect settings) fun _ => ih hfits.2
      · exact hother

theorem keeps_callEntry (hbounds : Bounds settings called passed (callFunction settings)) :
    Watched.Keeps called passed (fun _ => True) (callEntry settings) := by
  refine .state_bind fun machine hmachine => ?_
  split
  · exact .pure trivial
  · next function hfunction =>
      obtain ⟨name, -, hname⟩ := List.exists_of_findSome?_eq_some hfunction
      have hbody := hmachine.functions function (Dictionary.mem_values_of_get? hname)
      have hcalled := hbounds.call function
      split
      · exact .bind (hcalled _ none hbody (List.forall_mem_nil _)) fun _ hvalue =>
          keeps_addResult hvalue
      · refine .bind (hcalled _ none hbody (List.forall_mem_singleton.mpr ?_)) fun _ hvalue =>
          keeps_addResult hvalue
        exact .of_text?_eq_none rfl
      · exact .step (List.forall_mem_nil _) fun machine hmachine _ _ =>
          Run.keeps_fail _ _ machine hmachine

theorem keeps_runProgram (hbounds : Bounds settings called passed (callFunction settings))
    (statements : List Statement) (hfits : BlockFits called statements) :
    Watched.Keeps called passed (fun _ => True) (runProgram settings statements) := by
  refine .andThen (.change (List.forall_mem_nil _) fun machine hmachine _ => ?_) fun _ => ?_
  · exact hmachine.hoist hfits
  · refine .bind (keeps_executeProgram hbounds statements hfits) fun reached _ => ?_
    split
    · exact keeps_callEntry hbounds
    · exact .pure trivial

end Watch

end Evaluator

end BrightScript
