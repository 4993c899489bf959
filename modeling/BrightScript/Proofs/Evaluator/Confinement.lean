import BrightScript.Channel.Launch
import BrightScript.Proofs.Evaluator.Steps
import BrightScript.Proofs.Storage.Writing
import Mathlib.Data.List.Basic

namespace BrightScript

namespace Builtin

theorem text_eq_ok_iff {name value : String} {arguments : List Value} {position : Nat} :
    text name arguments position = .ok value ↔ arguments[position]? = some (.text value) := by
  unfold text
  split
  · next found hfound =>
      rw [hfound]
      simp
  · next hother =>
      constructor
      · intro htext
        cases htext
      · intro hvalue
        exact absurd hvalue (hother value)

theorem expect_eq_ok_iff {name : String} {arguments : List Value} {expected : Nat} :
    expect name arguments expected = .ok () ↔ arguments.length = expected := by
  unfold expect
  split <;> simp_all

theorem call_writeFile_eq_ok_iff {registry : Registry} {name : String} {arguments : List Value}
    {action : Action} :
    writeFile.call registry name arguments = .ok action ↔
      ∃ path contents, arguments = [.text path, .text contents] ∧
        action = write path contents := by
  constructor
  · intro haction
    obtain ⟨_, hlength, haction⟩ := bind_eq_ok_iff.mp haction
    obtain ⟨path, hpath, haction⟩ := bind_eq_ok_iff.mp haction
    obtain ⟨contents, hcontents, haction⟩ := bind_eq_ok_iff.mp haction
    obtain rfl := Except.ok.inj haction
    rw [text_eq_ok_iff] at hpath hcontents
    obtain ⟨first, second, rfl⟩ := List.length_eq_two.mp (expect_eq_ok_iff.mp hlength)
    cases hpath
    cases hcontents
    exact ⟨path, contents, rfl, rfl⟩
  · rintro ⟨path, contents, rfl, rfl⟩
    rfl

end Builtin

variable {settings : Settings}

theorem RunContext.Step.files_eq_or_write {before after : RunContext}
    (hstep : before.Step settings after) :
    after.files = before.files ∨
      ∃ path text, before.files.writeText path text = .ok after.files := by
  cases hstep with
  | alloc | call | write | print | collect | declare => exact .inl rfl
  | builtin haction =>
      cases Builtin.outcome_of_call haction with
      | create kind =>
          refine .inl ?_
          unfold RunContext.timed Builtin.create
          split <;> rfl
      | write path contents =>
          unfold Builtin.write
          cases hfiles : before.files.writeText path contents with
          | ok files => exact .inr ⟨path, contents, hfiles⟩
          | error error => exact .inl rfl
      | give hgive => exact .inl (by rw [hgive])

/-- Any number of steps leave the volumes alone that programs may only read. -/
theorem RunContext.Steps.volume? {before after : RunContext} (hsteps : before.Steps settings after)
    {name : String} (hname : Name.key name ∈ FileSystem.readOnlyVolumes) :
    after.files.volume? name = before.files.volume? name := by
  induction hsteps with
  | refl => rfl
  | tail _ hstep ih =>
      rcases hstep.files_eq_or_write with hsame | ⟨path, text, hwrite⟩
      · rw [hsame, ih]
      · rw [FileSystem.volume?_of_writeText hwrite hname, ih]

namespace Evaluator

theorem steps_interpreter (settings : Settings) (statements : List Statement) (scope : Handle)
    (context : RunContext) :
    context.Steps settings (interpreter settings statements scope context).2 := by
  have hsteps := steps_runProgram settings statements { context := context, scope := scope }
  unfold interpreter
  cases hrun : runProgram settings statements { context := context, scope := scope } with
  | ok _ machine =>
      rw [hrun] at hsteps
      exact hsteps
  | error fault machine =>
      rw [hrun] at hsteps
      exact hsteps

/-- What a call that writes a file does: it fails and leaves everything as it was, or it writes one
file, in the place that its first argument names. -/
inductive WriteOutcome (machine : Machine) (arguments : List Value) :
    EStateM.Result Fault Machine Value → Prop
  | fault (fault : Fault) : WriteOutcome machine arguments (.error fault machine)
  | refused : WriteOutcome machine arguments (.ok (.boolean false) machine)
  | written {path contents volume location : String} {files : FileSystem}
      (harguments : arguments = [.text path, .text contents])
      (hnames : FileSystem.Names path volume location)
      (hwritable : volume ∉ FileSystem.readOnlyVolumes)
      (hwrote : machine.context.files.Wrote files volume location contents.toUTF8) :
      WriteOutcome machine arguments
        (.ok (.boolean true) { machine with context := { machine.context with files := files } })

theorem writeOutcome_callNamed {call : Caller} {span : Span} {name : String}
    {arguments : List Value} {machine : Machine} (hname : Builtin.ofName? name = some .writeFile) :
    WriteOutcome machine arguments (callNamed settings call span name arguments machine) := by
  unfold callNamed
  rw [hname]
  dsimp only
  cases haction : Builtin.writeFile.call settings.registry name arguments with
  | error error => exact .fault _
  | ok action =>
      obtain ⟨path, contents, rfl, rfl⟩ := Builtin.call_writeFile_eq_ok_iff.mp haction
      change WriteOutcome machine _ (Run.withContext (Builtin.write path contents) machine)
      unfold Run.withContext Builtin.write
      dsimp only
      cases hfiles : machine.context.files.writeText path contents with
      | error error => exact .refused
      | ok files =>
          obtain ⟨volume, location, hnames, hwritable, hwrote⟩ :=
            FileSystem.wrote_of_writeText hfiles
          exact .written rfl hnames hwritable hwrote

/-- A run leaves the volumes alone that programs may only read, however it ends, and each call that
writes a file changes at most that one file. -/
theorem interpreter_confined (settings : Settings) (statements : List Statement) (scope : Handle)
    (context : RunContext) :
    (let ended := (interpreter settings statements scope context).2
     ended.files.volume? "pkg:" = context.files.volume? "pkg:" ∧
       ended.files.volume? "common:" = context.files.volume? "common:") ∧
    ∀ (call : Caller) (span : Span) (name : String) (arguments : List Value) (machine : Machine),
      Builtin.ofName? name = some .writeFile →
      WriteOutcome machine arguments (callNamed settings call span name arguments machine) := by
  have hsteps := steps_interpreter settings statements scope context
  refine ⟨⟨hsteps.volume? (by decide +kernel), hsteps.volume? (by decide +kernel)⟩, ?_⟩
  intro call span name arguments machine hname
  exact writeOutcome_callNamed hname

theorem interpreter_confined_mixedCase :
    let machine : Machine := { context := {}, scope := ⟨⟨0⟩, 0, 0⟩ }
    let arguments := [Value.text "TMP:/a/../b.txt", .text "x"]
    let result := callNamed {} (callFunction {}) ⟨0, 0⟩ "WriteASCIIFile" arguments machine
    Builtin.ofName? "WriteASCIIFile" = some .writeFile ∧
      (match result with
        | .ok (.boolean written) _ => written
        | _ => false) = true ∧
      WriteOutcome machine arguments result :=
  ⟨by decide +kernel, by decide +kernel,
    (interpreter_confined {} [] ⟨⟨0⟩, 0, 0⟩ {}).2 _ _ _ _ _ (by decide +kernel)⟩

end Evaluator

end BrightScript
