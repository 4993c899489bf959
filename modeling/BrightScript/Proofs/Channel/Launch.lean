import BrightScript.Channel.Launch
import BrightScript.Proofs.Renaming.Evaluator
import BrightScript.Proofs.Renaming.Snapshot

namespace BrightScript.Launch

/-- The context of a run that has not begun. -/
def freshContext (files : FileSystem) (run : RunId) (clock : Nat) (readings : List Nat) :
    RunContext :=
  { files := files, heap := { run := run, clock := clock }, readings := readings }

/-- The machine of a run that begins, with the table that the program is given. -/
def firstMachine (source : String) (context : RunContext) : Machine :=
  { context := (context.alloc (scope source)).2, scope := (context.alloc (scope source)).1 }

/-- The moments that a program passes when it is launched. -/
def moments (settings : Settings) (source : String) (statements : List Statement)
    (context : RunContext) : List Moment :=
  (Evaluator.Watch.runProgram settings statements).moments (firstMachine source context)

theorem covers_scope (heap : Heap) (source : String) : heap.Covers (scope source).references := by
  refine Heap.covers_table.mpr fun value hvalue => ?_
  have hmem := Dictionary.mem_values_ofList hvalue
  simp only [List.map_cons, List.map_nil, List.mem_cons, List.not_mem_nil, or_false] at hmem
  rcases hmem with rfl | rfl
  · exact Heap.holds_text
  · exact Heap.holds_text

theorem sound_firstMachine (source : String) (files : FileSystem) (run : RunId) (clock : Nat)
    (readings : List Nat) :
    (firstMachine source (freshContext files run clock readings)).Sound := by
  have hempty := Heap.wellFormed_empty run clock
  have hnone : ∀ handle, Heap.slot? { run := run, clock := clock } handle = none := by
    simp [Heap.slot?]
  have hsettled : Heap.Settled { run := run, clock := clock } := by
    intro handle hhandle
    rw [Heap.isValid, hnone] at hhandle
    cases hhandle
  have hself : Heap.Mirrors 1 { run := run, clock := clock } { run := run, clock := clock } := by
    refine .refl hempty ?_
    intro handle component hget
    rw [Heap.get?, hnone] at hget
    cases hget
  obtain ⟨σ, hlater, hheap, -⟩ := hself.alloc (covers_scope _ source)
  constructor
  · exact hheap.wellFormed
  · exact hsettled.of_later hlater
  · exact hheap.covers
  · rw [Machine.covers_roots_iff]
    refine ⟨hempty.isValid_alloc_self (scope source), ?_, ?_, ?_, ?_⟩
    · exact List.forall_mem_singleton.mpr (List.forall_mem_nil _)
    · exact List.forall_mem_nil _
    · exact List.forall_mem_nil _
    · exact Heap.covers_nil

theorem execute_eq (settings : Settings) (source : String) (statements : List Statement)
    (context : RunContext) :
    execute (Evaluator.interpreter settings) source statements context =
      match Evaluator.runProgram settings statements (firstMachine source context) with
      | .ok _ machine =>
        (.ok (machine.results.reverse.map machine.context.tick.heap.snapshot), machine.context.tick)
      | .error fault machine => (.error fault, machine.context) := by
  simp only [execute, Evaluator.interpreter, firstMachine]
  cases Evaluator.runProgram settings statements
    { context := (context.alloc (scope source)).2, scope := (context.alloc (scope source)).1 } <;>
    rfl

/-- What the host can see at a moment: the lines printed so far, the files and the warnings. -/
def visible (moment : Moment) : List String × FileSystem × List String :=
  (moment.machine.context.output, moment.machine.context.files, moment.machine.context.warnings)

theorem visible_eq {moment moment' : Moment} (hmoment : moment.Mirrored moment') :
    visible moment = visible moment' := by
  obtain ⟨π, hmachine, -⟩ := hmoment
  simp only [visible, hmachine.output, hmachine.files, hmachine.warnings]

/-- Launching a program agrees with launching it where garbage is never collected. -/
theorem agrees_never (threshold : Option Nat) (source : String) (statements : List Statement)
    (files : FileSystem) (run : RunId) (clock : Nat) (readings : List Nat) :
    let start := firstMachine source (freshContext files run clock readings)
    Watched.Agrees (fun _ _ => Eq) start start
      (Evaluator.Watch.runProgram { threshold := threshold } statements)
      (Evaluator.Watch.runProgram { threshold := none } statements) :=
  Evaluator.Watch.alike_runProgram ⟨rfl, rfl, rfl⟩ statements
    (sound_firstMachine source files run clock readings).mirrors

theorem moments_eq_never (threshold : Option Nat) (source : String) (statements : List Statement)
    (files : FileSystem) (run : RunId) (clock : Nat) (readings : List Nat) :
    let context := freshContext files run clock readings
    (moments { threshold := threshold } source statements context).map visible =
      (moments { threshold := none } source statements context).map visible := by
  have hrun := agrees_never threshold source statements files run clock readings
  exact List.forall₂_eq_eq_eq ▸ List.forall₂_map_left_iff.mpr (List.forall₂_map_right_iff.mpr
    (hrun.moments.imp fun _ _ hmoment => visible_eq hmoment))

theorem execute_eq_never (threshold : Option Nat) (source : String) (statements : List Statement)
    (files : FileSystem) (run : RunId) (clock : Nat) (readings : List Nat) :
    let context := freshContext files run clock readings
    let collecting := execute (Evaluator.interpreter { threshold := threshold }) source statements
      context
    let never := execute (Evaluator.interpreter { threshold := none }) source statements context
    collecting.1 = never.1 ∧ collecting.2.output = never.2.output ∧
      collecting.2.files = never.2.files ∧ collecting.2.warnings = never.2.warnings := by
  have hrun := (agrees_never threshold source statements files run clock readings).result
  simp only [Evaluator.Watch.run_runProgram] at hrun
  simp only [execute_eq]
  revert hrun
  generalize Evaluator.runProgram { threshold := threshold } statements _ = result
  generalize Evaluator.runProgram { threshold := none } statements _ = result'
  intro hrun
  cases hrun with
  | @ok π _ _ after after' hafter _ _ _ =>
      refine ⟨congrArg Except.ok ?_, hafter.output.symm, hafter.files.symm, hafter.warnings.symm⟩
      rw [hafter.results, ← List.map_reverse, List.map_map]
      refine List.map_congr_left fun value hvalue => ?_
      exact (hafter.tick.heap.snapshot_rename
        (hafter.covers_results value (List.mem_reverse.mp hvalue))).symm
  | error hafter _ _ _ =>
      exact ⟨rfl, hafter.output.symm, hafter.files.symm, hafter.warnings.symm⟩

/-- Whenever its garbage is collected, a program that is launched ends alike, with the same fault or
with results that are shown alike, and prints the same lines and writes the same files, in the end
and from moment to moment. -/
theorem execute_independent_of_collection (first second : Option Nat) (source : String)
    (statements : List Statement) (files : FileSystem) (run : RunId) (clock : Nat)
    (readings : List Nat) :
    let context := freshContext files run clock readings
    let one := execute (Evaluator.interpreter { threshold := first }) source statements context
    let other := execute (Evaluator.interpreter { threshold := second }) source statements context
    one.1 = other.1 ∧ one.2.output = other.2.output ∧ one.2.files = other.2.files ∧
      one.2.warnings = other.2.warnings ∧
      (moments { threshold := first } source statements context).map visible =
        (moments { threshold := second } source statements context).map visible := by
  obtain ⟨hresult, houtput, hfiles, hwarnings⟩ :=
    execute_eq_never first source statements files run clock readings
  obtain ⟨hresult', houtput', hfiles', hwarnings'⟩ :=
    execute_eq_never second source statements files run clock readings
  have hmoments := moments_eq_never first source statements files run clock readings
  have hmoments' := moments_eq_never second source statements files run clock readings
  exact ⟨hresult.trans hresult'.symm, houtput.trans houtput'.symm, hfiles.trans hfiles'.symm,
    hwarnings.trans hwarnings'.symm, hmoments.trans hmoments'.symm⟩

end BrightScript.Launch
