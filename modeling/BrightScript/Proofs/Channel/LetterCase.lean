import BrightScript.Proofs.Respelling.Program

namespace BrightScript.Launch

/-- Outcomes with the same documents, or with errors about the same part of the source text whose
messages differ in letter case only. -/
inductive SameUpToCase : Except Fault (List Json) → Except Fault (List Json) → Prop
  | ok (documents : List Json) : SameUpToCase (.ok documents) (.ok documents)
  | error {fault fault' : Fault} (hspan : fault'.span? = fault.span?)
      (hmessage : Name.key fault'.message = Name.key fault.message) :
      SameUpToCase (.error fault) (.error fault')

namespace SameUpToCase

variable {first second third : Except Fault (List Json)}

theorem symm (hsame : SameUpToCase first second) : SameUpToCase second first := by
  cases hsame with
  | ok documents => exact .ok documents
  | error hspan hmessage => exact .error hspan.symm hmessage.symm

theorem trans (hsame : SameUpToCase first second) (hother : SameUpToCase second third) :
    SameUpToCase first third := by
  cases hsame with
  | ok documents => exact hother
  | error hspan hmessage =>
      cases hother with
      | error hspan' hmessage' => exact .error (hspan'.trans hspan) (hmessage'.trans hmessage)

end SameUpToCase

/-- What two runs keep if names are spelled differently and nothing is left out. -/
def respelling (spelling : Respelling) : Pairing where
  spelling := spelling

theorem respelled_firstMachine (spelling : Respelling) (source : String) (context : RunContext) :
    (firstMachine source context).Respelled (respelling spelling)
      (firstMachine source context) where
  context := rfl
  scope := rfl
  functions _ := rfl
  frames := rfl
  temporaries := rfl
  results := rfl
  others := rfl
  handles := rfl
  pinned := List.forall_mem_nil _
  spared _ := .of_nil

theorem respelled_hoist {spelling : Respelling} {machine other : Machine}
    (hmachine : machine.Respelled (respelling spelling) other) (statements : List Statement) :
    (Evaluator.hoist machine statements).Respelled (respelling spelling)
      (Evaluator.hoist other (statements.map (Statement.respell spelling))) := by
  induction statements generalizing machine other with
  | nil => exact hmachine
  | cons statement rest ih =>
      cases statement with
      | function span name parameters body isSub => exact ih (hmachine.declare .of_nil .of_nil)
      | _ => exact ih hmachine

variable (settings : Settings) (source : String) (context : RunContext)

theorem accords_respell (spelling : Respelling) (statements : List Statement) :
    let start := firstMachine source context
    Watched.Accords spelling
      (fun _ => Evaluator.Watch.Finished (respelling spelling) (fun _ => false) statements)
      start start (Evaluator.Watch.runProgram settings statements)
      (Evaluator.Watch.runProgram settings (statements.map (Statement.respell spelling))) := by
  have hadmissible : ∀ statement ∈ statements,
      statement.Admissible settings (respelling spelling).pinned (fun _ => false) :=
    fun _ _ => ⟨fun _ => .of_nil, Bool.noConfusion, Bool.noConfusion⟩
  have hhoisted := Evaluator.Watch.accords_runHoisted
    (respelled_hoist (respelled_firstMachine spelling source context) statements) hadmissible
  simp only [Bool.not_false, List.filter_true] at hhoisted
  exact Evaluator.Watch.accords_runProgram hhoisted

theorem execute_respell (spelling : Respelling) (statements : List Statement) :
    let respelled := statements.map (Statement.respell spelling)
    let one := execute (Evaluator.interpreter settings) source statements context
    let other := execute (Evaluator.interpreter settings) source respelled context
    SameUpToCase one.1 other.1 ∧ other.2 = one.2 ∧
      history settings source respelled context = history settings source statements context := by
  intro respelled
  have hrun := accords_respell settings source context spelling statements
  refine and_assoc.mp ⟨?_, hrun.history_eq⟩
  have hresult := hrun.result
  rw [Evaluator.Watch.run_runProgram, Evaluator.Watch.run_runProgram] at hresult
  simp only [execute_eq]
  revert hresult
  generalize Evaluator.runProgram settings statements _ = result
  generalize Evaluator.runProgram settings respelled _ = result'
  intro hresult
  cases hresult with
  | ok hend =>
      obtain ⟨values, hresults, hresults'⟩ := hend.results
      rw [keptEntries_never] at hresults'
      refine ⟨?_, congrArg RunContext.tick hend.context_eq⟩
      dsimp only
      rw [hresults, hresults', hend.context_eq]
      exact .ok _
  | error hcontext hfault => exact ⟨.error hfault.span?_eq hfault.key_message_eq, hcontext⟩

/-- Programs that are the same once the names of variables, functions, parameters, called methods
and members that are read are written in lower case do and show the same: they end with the same
results, or with errors about the same part of the source text whose messages differ in letter case
only, and print the same lines and write the same files, in the end and from change to change. -/
theorem execute_independent_of_letter_case {statements statements' : List Statement}
    (hsame : statements.map (Statement.respell .lower) =
      statements'.map (Statement.respell .lower)) :
    let one := execute (Evaluator.interpreter settings) source statements context
    let other := execute (Evaluator.interpreter settings) source statements' context
    SameUpToCase one.1 other.1 ∧ one.2 = other.2 ∧
      history settings source statements context = history settings source statements' context := by
  obtain ⟨houtcome, hcontext, hhistory⟩ := execute_respell settings source context .lower statements
  obtain ⟨houtcome', hcontext', hhistory'⟩ :=
    execute_respell settings source context .lower statements'
  rw [hsame] at houtcome hcontext hhistory
  exact ⟨houtcome.trans houtcome'.symm, hcontext.symm.trans hcontext',
    hhistory.symm.trans hhistory'⟩

/-- A program that declares a function with a parameter and prints what a call of it gives. -/
def doubling (function parameter called : String) : List Statement :=
  [.function default function [parameter]
      [.return default (some (.binary default .add (.variable default parameter)
        (.variable default parameter)))] false,
    .print default [.call default (.variable default called) [.literal default (.integer 21)]]]

theorem respell_doubling {function function' parameter parameter' called called' : String}
    (hfunction : Name.key function = Name.key function')
    (hparameter : Name.key parameter = Name.key parameter')
    (hcalled : Name.key called = Name.key called') :
    (doubling function parameter called).map (Statement.respell .lower) =
      (doubling function' parameter' called').map (Statement.respell .lower) := by
  simp only [doubling, List.map_cons, List.map_nil, Statement.respell, Statement.respellBlock,
    Option.map_some, Expression.respell, Expression.respellAll, Respelling.lower_apply, hfunction,
    hparameter, hcalled]

theorem doubling_same_in_capitals :
    (doubling "Double" "x" "Double").map (Statement.respell .lower) =
        (doubling "DOUBLE" "X" "dOUBLE").map (Statement.respell .lower) ∧
      let one := execute (Evaluator.interpreter {}) defaultSource (doubling "Double" "x" "Double")
        default
      let other := execute (Evaluator.interpreter {}) defaultSource (doubling "DOUBLE" "X" "dOUBLE")
        default
      SameUpToCase one.1 other.1 ∧ one.2 = other.2 := by
  have hfunction : Name.key "Double" = "double" := by simp [Name.key_eq_iff]
  have hfunction' : Name.key "DOUBLE" = "double" := by simp [Name.key_eq_iff]
  have hparameter : Name.key "x" = "x" := by simp [Name.key_eq_iff]
  have hparameter' : Name.key "X" = "x" := by simp [Name.key_eq_iff]
  have hcalled : Name.key "dOUBLE" = "double" := by simp [Name.key_eq_iff]
  have hsame := respell_doubling (hfunction.trans hfunction'.symm)
    (hparameter.trans hparameter'.symm) (hfunction.trans hcalled.symm)
  obtain ⟨houtcome, hcontext, -⟩ :=
    execute_independent_of_letter_case {} defaultSource default hsame
  exact ⟨hsame, houtcome, hcontext⟩

end BrightScript.Launch
