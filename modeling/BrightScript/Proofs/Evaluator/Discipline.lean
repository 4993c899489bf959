import BrightScript.Method.Procedure
import BrightScript.Proofs.Evaluator.Steps
import BrightScript.Proofs.Evaluator.Termination

/-!
What a computation leaves of the stacks of a machine. It leaves as many frames as it finds, and if
it succeeds, the temporaries and all variables that it may not assign to are as they were. What
stands below the frames of a computation can be exchanged without any effect on it, as long as the
collector finds the same components there.
-/

namespace BrightScript

open Procedure (leaving)

variable {settings : Settings} {access : Access} {α β : Type}

theorem Machine.frames_collect (machine : Machine) :
    (machine.collect settings).frames = machine.frames := by
  unfold collect
  split
  · rfl
  · split <;> rfl

theorem Machine.temporaries_collect (machine : Machine) :
    (machine.collect settings).temporaries = machine.temporaries := by
  unfold collect
  split
  · rfl
  · split <;> rfl

theorem Run.bind_eq_ok_iff {first : Run α} {next : α → Run β} {machine after : Machine}
    {value : β} : (first >>= next) machine = .ok value after ↔
      ∃ inner middle, first machine = .ok inner middle ∧ next inner middle = .ok value after := by
  change EStateM.bind first next machine = _ ↔ _
  unfold EStateM.bind
  constructor
  · intro hrun
    cases hfirst : first machine with
    | ok inner middle =>
        rw [hfirst] at hrun
        exact ⟨inner, middle, rfl, hrun⟩
    | error fault middle =>
        rw [hfirst] at hrun
        cases hrun
  · rintro ⟨inner, middle, hfirst, hnext⟩
    rw [hfirst]
    exact hnext

theorem Run.bracket_eq_ok_iff {start finish : Machine → Machine} {body : Run α}
    {machine after : Machine} {value : α} :
    Run.bracket start finish body machine = .ok value after ↔
      ∃ inner, body (start machine) = .ok value inner ∧ finish inner = after := by
  unfold Run.bracket
  constructor
  · intro hrun
    split at hrun
    · next result inner hinner =>
        obtain ⟨rfl, hafter⟩ := EStateM.Result.ok.inj hrun
        exact ⟨inner, hinner, hafter⟩
    · cases hrun
  · rintro ⟨inner, hinner, rfl⟩
    rw [hinner]

theorem Run.bracket_eq_leaving (start finish : Machine → Machine) (body : Run α)
    (machine : Machine) :
    Run.bracket start finish body machine = leaving finish (body (start machine)) := by
  unfold Run.bracket
  cases body (start machine) <;> rfl

theorem Run.final_leaving (change : Machine → Machine) (result : EStateM.Result Fault Machine α) :
    Run.final (leaving change result) = change (Run.final result) := by
  cases result <;> rfl

theorem Evaluator.final_readVariable (span : Span) (name : String) (machine : Machine) :
    Run.final (readVariable span name machine) = machine := by
  unfold readVariable
  change Run.final (EStateM.bind EStateM.get _ machine) = machine
  rw [EStateM.bind, EStateM.get]
  dsimp only
  cases machine.valueOf? name with
  | some value => rfl
  | none => split <;> rfl

/-- The machine with one more value in the midst of a computation. -/
def Machine.hold (machine : Machine) (value : Value) : Machine :=
  { machine with temporaries := value :: machine.temporaries }

/-- The frames that a computation leaves as they are. -/
def Access.spares : Access → List Frame → List Frame
  | .read, frames => frames
  | .assign, frames => frames.tail

/-- A computation gives the stacks back as it found them, up to the variables it may assign to. -/
structure Run.Restores (access : Access) (run : Run α) : Prop where
  height : run.Keeps
  frames : ∀ machine {value after}, machine.frames ≠ [] → run machine = .ok value after →
    access.spares after.frames = access.spares machine.frames
  temporaries : ∀ machine {value after}, machine.frames ≠ [] → run machine = .ok value after →
    after.temporaries = machine.temporaries

theorem Run.Keeps.frames_ne_nil {run : Run α} (hkeeps : run.Keeps) {machine after : Machine}
    {value : α} (hframes : machine.frames ≠ []) (hrun : run machine = .ok value after) :
    after.frames ≠ [] := by
  have hlength := hkeeps machine hframes
  rw [hrun] at hlength
  rw [← List.length_pos_iff, show after.frames.length = _ from hlength, List.length_pos_iff]
  exact hframes

theorem Run.Keeps.bracket {start finish : Machine → Machine} {body : Run α} (hbody : body.Keeps)
    (more : Nat)
    (hstart : ∀ machine, (start machine).frames.length = machine.frames.length + more)
    (hfinish : ∀ machine, (finish machine).frames.length = machine.frames.length - more) :
    (Run.bracket start finish body).Keeps := by
  intro machine hframes
  have hlength := hbody (start machine) (by
    rw [← List.length_pos_iff, hstart]
    exact Nat.add_pos_left (List.length_pos_iff.mpr hframes) more)
  rw [hstart] at hlength
  rw [bracket_eq_leaving, final_leaving, hfinish, hlength, Nat.add_sub_cancel]

namespace Run.Restores

theorem of_untouched {run : Run α}
    (hframes : ∀ machine, (Run.final (run machine)).frames = machine.frames)
    (htemporaries : ∀ machine, (Run.final (run machine)).temporaries = machine.temporaries) :
    run.Restores access where
  height machine _ := congrArg List.length (hframes machine)
  frames machine value after _ hrun := by
    have hsame := hframes machine
    rw [hrun] at hsame
    exact congrArg access.spares hsame
  temporaries machine value after _ hrun := by
    have hsame := htemporaries machine
    rwa [hrun] at hsame

theorem assign (name : String) (value : Value) :
    Restores .assign (modify fun machine => machine.assign name value) := by
  have hassign : ∀ {machine after : Machine}, machine.frames ≠ [] →
      machine.assign name value = after →
      after.frames.tail = machine.frames.tail ∧ after.temporaries = machine.temporaries := by
    rintro machine _ hframes rfl
    obtain ⟨frame, frames, hmachine⟩ := List.exists_cons_of_ne_nil hframes
    rw [Machine.assign, hmachine]
    exact ⟨rfl, rfl⟩
  constructor
  case height => exact Evaluator.keeps_assign name value
  case frames =>
    intro machine _ after hframes hrun
    exact (hassign hframes (EStateM.Result.ok.inj hrun).2).1
  case temporaries =>
    intro machine _ after hframes hrun
    exact (hassign hframes (EStateM.Result.ok.inj hrun).2).2

theorem bind {first : Run α} {next : α → Run β} (hfirst : first.Restores access)
    (hnext : ∀ value, (next value).Restores access) : (first >>= next).Restores access where
  height := hfirst.height.bind fun value => (hnext value).height
  frames machine _ _ hframes hrun := by
    obtain ⟨inner, middle, hmiddle, hafter⟩ := bind_eq_ok_iff.mp hrun
    have hnonempty := hfirst.height.frames_ne_nil hframes hmiddle
    exact ((hnext inner).frames middle hnonempty hafter).trans
      (hfirst.frames machine hframes hmiddle)
  temporaries machine _ _ hframes hrun := by
    obtain ⟨inner, middle, hmiddle, hafter⟩ := bind_eq_ok_iff.mp hrun
    have hnonempty := hfirst.height.frames_ne_nil hframes hmiddle
    exact ((hnext inner).temporaries middle hnonempty hafter).trans
      (hfirst.temporaries machine hframes hmiddle)

theorem holding (value : Value) {body : Run α} (hbody : body.Restores access) :
    (Run.holding value body).Restores access where
  height := hbody.height.bracket 0 (fun _ => rfl) fun _ => rfl
  frames machine _ _ hframes hrun := by
    obtain ⟨inner, hinner, rfl⟩ := bracket_eq_ok_iff.mp hrun
    have hsame := hbody.frames (machine.hold value) hframes hinner
    exact hsame
  temporaries machine _ _ hframes hrun := by
    obtain ⟨inner, hinner, rfl⟩ := bracket_eq_ok_iff.mp hrun
    have hpushed := hbody.temporaries (machine.hold value) hframes hinner
    exact congrArg List.tail hpushed

theorem within (frame : Frame) {body : Run α} (hbody : body.Restores .assign) :
    (Run.within frame body).Restores access where
  height := hbody.height.bracket 1 (fun _ => rfl) fun _ => List.length_tail ..
  frames machine _ _ _ hrun := by
    obtain ⟨inner, hinner, rfl⟩ := bracket_eq_ok_iff.mp hrun
    have hbelow := hbody.frames _ (List.cons_ne_nil frame machine.frames) hinner
    exact congrArg access.spares hbelow
  temporaries machine _ _ _ hrun := by
    obtain ⟨inner, hinner, rfl⟩ := bracket_eq_ok_iff.mp hrun
    have hsame := hbody.temporaries _ (List.cons_ne_nil frame machine.frames) hinner
    exact hsame

end Run.Restores

/-- Whatever an expression or a statement does, it does between pushing and popping. -/
theorem Run.Composed.restores {run : Run α} (hrun : run.Composed settings access) :
    run.Restores access := by
  induction hrun with
  | pure value => exact .of_untouched (fun _ => rfl) fun _ => rfl
  | fail error span => exact .of_untouched (fun _ => rfl) fun _ => rfl
  | look hnext hsame ih =>
      constructor
      case height => exact .bind .get fun machine => (ih machine).height
      case frames => exact fun machine _ _ => (ih machine).frames machine
      case temporaries => exact fun machine _ _ => (ih machine).temporaries machine
  | readVariable span name =>
      have hsame := Evaluator.final_readVariable span name
      exact .of_untouched (fun machine => congrArg Machine.frames (hsame machine)) fun machine =>
        congrArg Machine.temporaries (hsame machine)
  | assign name value => exact .assign name value
  | declare function => exact .of_untouched (fun _ => rfl) fun _ => rfl
  | collect => exact .of_untouched Machine.frames_collect Machine.temporaries_collect
  | withContext hchange => exact .of_untouched (fun _ => rfl) fun _ => rfl
  | bind hfirst hnext ihfirst ihnext => exact ihfirst.bind ihnext
  | holding value hbody ih => exact ih.holding value
  | within frame hbody ih => exact ih.within frame

/-- The components that frames refer to. -/
def Frame.references (frames : List Frame) : List Handle :=
  frames.flatMap fun frame => Value.handles frame.values

/-- No collection can tell these frames apart. -/
def Settings.Confuses (settings : Settings) (frames others : List Frame) : Prop :=
  settings.threshold = none ∨ Frame.references frames = Frame.references others

namespace Machine

/-- The machine with more calls under way below its own. -/
def onto (machine : Machine) (below : List Frame) : Machine :=
  { machine with frames := machine.frames ++ below }

variable {machine : Machine} {below others : List Frame}

theorem valueOf?_onto (hframes : machine.frames ≠ []) (below : List Frame) (name : String) :
    (machine.onto below).valueOf? name = machine.valueOf? name := by
  obtain ⟨frame, frames, hmachine⟩ := List.exists_cons_of_ne_nil hframes
  rw [valueOf?, valueOf?, onto, hmachine]
  rfl

theorem assign_onto (hframes : machine.frames ≠ []) (below : List Frame) (name : String)
    (value : Value) : (machine.onto below).assign name value =
      (machine.assign name value).onto below := by
  obtain ⟨frame, frames, hmachine⟩ := List.exists_cons_of_ne_nil hframes
  simp only [assign, onto, hmachine, List.cons_append]

theorem roots_onto (machine : Machine)
    (hsame : Frame.references below = Frame.references others) :
    (machine.onto below).roots = (machine.onto others).roots := by
  unfold Frame.references at hsame
  simp only [roots, onto, List.flatMap_append, hsame]

theorem collect_onto (machine : Machine) (hsame : settings.Confuses below others) :
    ∃ after : Machine, after.frames = machine.frames ∧
      (machine.onto below).collect settings = after.onto below ∧
      (machine.onto others).collect settings = after.onto others := by
  cases hthreshold : settings.threshold with
  | none =>
      refine ⟨machine, rfl, ?_, ?_⟩ <;> rw [collect, hthreshold]
  | some threshold =>
      have hroots := roots_onto machine
        (hsame.resolve_left (by rw [hthreshold]; exact Option.some_ne_none threshold))
      by_cases hdue : machine.context.heap.isDue threshold = true
      · refine ⟨{ machine with context := { machine.context with
          heap := machine.context.heap.collect (machine.onto below).roots } }, rfl, ?_, ?_⟩
        · rw [collect, hthreshold]
          exact if_pos hdue
        · rw [collect, hthreshold, hroots]
          exact if_pos hdue
      · refine ⟨machine, rfl, ?_, ?_⟩ <;>
        · rw [collect, hthreshold]
          exact if_neg hdue

end Machine

theorem Evaluator.readVariable_onto {machine : Machine} (hframes : machine.frames ≠ [])
    (below : List Frame) (span : Span) (name : String) :
    readVariable span name (machine.onto below) =
      leaving (·.onto below) (readVariable span name machine) := by
  unfold readVariable
  change EStateM.bind EStateM.get _ _ = leaving _ (EStateM.bind EStateM.get _ _)
  rw [EStateM.bind, EStateM.bind, EStateM.get, EStateM.get]
  dsimp only
  rw [Machine.valueOf?_onto hframes]
  cases machine.valueOf? name with
  | some value => rfl
  | none =>
      change (ite (machine.functions.contains name = true) _ _ : Run Value) _ =
        leaving _ ((ite (machine.functions.contains name = true) _ _ : Run Value) _)
      split <;> rfl

theorem Machine.leaving_onto {result : EStateM.Result Fault Machine α}
    (hframes : (Run.final result).frames = []) (below : List Frame) :
    leaving (·.onto below) result =
      leaving (fun after : Machine => { after with frames := below }) result := by
  cases result with
  | ok value after =>
      have hafter : after.frames = [] := hframes
      simp only [leaving, onto, hafter, List.nil_append]
  | error fault after =>
      have hafter : after.frames = [] := hframes
      simp only [leaving, onto, hafter, List.nil_append]

/-- A computation from a state neither looks at the frames below those of the state nor changes
them. -/
def Run.Shielded (settings : Settings) (run : Run α) (machine : Machine) : Prop :=
  ∀ below others, settings.Confuses below others → ∃ result,
    (Run.final result).frames.length = machine.frames.length ∧
    run (machine.onto below) = leaving (·.onto below) result ∧
    run (machine.onto others) = leaving (·.onto others) result

namespace Run.Shielded

variable {machine : Machine}

theorem of_onto {run : Run α}
    (hheight : (Run.final (run machine)).frames.length = machine.frames.length)
    (hrun : ∀ below, run (machine.onto below) = leaving (·.onto below) (run machine)) :
    run.Shielded settings machine :=
  fun below others _ => ⟨run machine, hheight, hrun below, hrun others⟩

theorem bind {first : Run α} {next : α → Run β} (hfirst : first.Shielded settings machine)
    (hnext : ∀ value after, after.frames.length = machine.frames.length →
      (next value).Shielded settings after) :
    (first >>= next).Shielded settings machine := by
  intro below others hsame
  obtain ⟨result, hheight, hbelow, hothers⟩ := hfirst below others hsame
  change ∃ result : EStateM.Result Fault Machine β, _ ∧
    EStateM.bind first next _ = _ ∧ EStateM.bind first next _ = _
  unfold EStateM.bind
  rw [hbelow, hothers]
  cases result with
  | error fault after => exact ⟨.error fault after, hheight, rfl, rfl⟩
  | ok value after =>
      obtain ⟨result, hafter, hrest⟩ := hnext value after hheight below others hsame
      exact ⟨result, hafter.trans hheight, hrest⟩

theorem bracket {start finish : Machine → Machine} {body : Run α}
    (hfinish : ∀ after, after.frames.length = (start machine).frames.length →
      (finish after).frames.length = machine.frames.length ∧
        ∀ below, finish (after.onto below) = (finish after).onto below)
    (honto : ∀ below, start (machine.onto below) = (start machine).onto below)
    (hbody : body.Shielded settings (start machine)) :
    (Run.bracket start finish body).Shielded settings machine := by
  intro below others hsame
  obtain ⟨result, hheight, hbelow, hothers⟩ := hbody below others hsame
  have hfinal := hfinish (Run.final result) hheight
  have hcommutes : ∀ below, leaving finish (leaving (·.onto below) result) =
      leaving (·.onto below) (leaving finish result) := by
    intro below
    cases result with
    | ok value after => exact congrArg (EStateM.Result.ok value) (hfinal.2 below)
    | error fault after => exact congrArg (EStateM.Result.error fault) (hfinal.2 below)
  refine ⟨leaving finish result, ?_, ?_, ?_⟩
  · rw [Run.final_leaving]
    exact hfinal.1
  · rw [bracket_eq_leaving, honto, hbelow, hcommutes]
  · rw [bracket_eq_leaving, honto, hothers, hcommutes]

theorem holding (value : Value) {body : Run α}
    (hbody : body.Shielded settings (machine.hold value)) :
    (Run.holding value body).Shielded settings machine :=
  bracket (fun _ hheight => ⟨hheight, fun _ => rfl⟩) (fun _ => rfl) hbody

theorem within (frame : Frame) {body : Run α}
    (hbody : body.Shielded settings { machine with frames := frame :: machine.frames }) :
    (Run.within frame body).Shielded settings machine := by
  refine bracket (fun after hheight => ⟨?_, fun below => ?_⟩) (fun _ => rfl) hbody
  · rw [List.length_tail, hheight, List.length_cons, Nat.add_sub_cancel]
  · have hnonempty : after.frames ≠ [] := by
      rw [← List.length_pos_iff, hheight]
      exact Nat.succ_pos _
    simp only [Machine.onto, List.tail_append_of_ne_nil hnonempty]

end Run.Shielded

/-- Expressions and statements see the variables of the innermost call only. -/
theorem Run.Composed.shielded {run : Run α} (hrun : run.Composed settings access)
    {machine : Machine} (hframes : machine.frames ≠ []) : run.Shielded settings machine := by
  induction hrun generalizing machine with
  | pure value => exact .of_onto rfl fun _ => rfl
  | fail error span => exact .of_onto rfl fun _ => rfl
  | @look _ _ next hnext hsame ih =>
      intro below others hconfuses
      obtain ⟨result, hheight, hbelow, hothers⟩ := ih machine hframes below others hconfuses
      refine ⟨result, hheight, ?_, ?_⟩
      · rw [← hbelow, ← hsame machine (machine.frames ++ below)]
        rfl
      · rw [← hothers, ← hsame machine (machine.frames ++ others)]
        rfl
  | readVariable span name =>
      refine .of_onto (by rw [Evaluator.final_readVariable]) fun below => ?_
      exact Evaluator.readVariable_onto hframes below span name
  | assign name value =>
      refine .of_onto (Evaluator.keeps_assign name value machine hframes) fun below => ?_
      exact congrArg (EStateM.Result.ok PUnit.unit)
        (Machine.assign_onto hframes below name value)
  | declare function => exact .of_onto rfl fun _ => rfl
  | collect =>
      intro below others hsame
      obtain ⟨after, hafter, hbelow, hothers⟩ := Machine.collect_onto machine hsame
      refine ⟨.ok ⟨⟩ after, congrArg List.length hafter, ?_, ?_⟩
      · exact congrArg (EStateM.Result.ok PUnit.unit) hbelow
      · exact congrArg (EStateM.Result.ok PUnit.unit) hothers
  | withContext hchange => exact .of_onto rfl fun _ => rfl
  | bind hfirst hnext ihfirst ihnext =>
      refine (ihfirst hframes).bind fun value after hheight => ihnext value ?_
      rw [← List.length_pos_iff, hheight, List.length_pos_iff]
      exact hframes
  | holding value hbody ih => exact .holding value (ih hframes)
  | within frame hbody ih => exact .within frame (ih (List.cons_ne_nil _ _))

namespace Evaluator

theorem shielded_callWithin (depth : Nat) (function : Function) (arguments : List Value)
    (span : Option Span) (machine : Machine) :
    (callWithin settings depth function arguments span).Shielded settings machine := by
  cases depth with
  | zero => exact .of_onto rfl fun _ => rfl
  | succ depth =>
      rw [callWithin]
      split
      · exact .of_onto rfl fun _ => rfl
      · have hbody := composed_executeBlock (composed_callWithin settings depth)
          function.body
        refine .bind (.within _ (hbody.shielded (List.cons_ne_nil _ _))) fun flow after _ => ?_
        cases flow <;> exact .of_onto rfl fun _ => rfl

end Evaluator

end BrightScript
