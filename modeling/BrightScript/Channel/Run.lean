import BrightScript.Channel.Launch
import BrightScript.Diagnostic.Report
import BrightScript.Package
import BrightScript.Program.Linked

namespace BrightScript

/-- How a run ends. -/
inductive Outcome where
  | success (results : List Json)
  | error (message : String)

namespace Outcome

def isSuccess : Outcome → Bool
  | .success _ => true
  | .error _ => false

/-- The members of the document of an outcome. -/
def members : Outcome → List (String × Json)
  | .success results => [("status", .text "ok"), ("results", .array results)]
  | .error message => [("status", .text "error"), ("message", .text message)]

end Outcome

/-- The phases of a run, in order. -/
inductive Phase where
  | idle
  | loading
  | resolving
  | executing
  | finished
  deriving DecidableEq, Repr

def Phase.text : Phase → String
  | .idle => "idle"
  | .loading => "loading"
  | .resolving => "resolving"
  | .executing => "executing"
  | .finished => "finished"

/-- What the host learns about a run. -/
structure RunSummary where
  outcome : Outcome
  phase : Phase
  libraries : List Library
  units : List UnitStatus

/-- Everything that a run gives rise to: its summary, the problems found while loading, the fault it
ended with, and what it did. -/
structure RunRecord where
  summary : RunSummary
  findings : List Finding
  fault : Option Fault
  context : RunContext

/-- A channel, ready to run on a device. -/
structure Channel where
  units : List SourceUnit
  manifest : Manifest := .empty
  device : Device := {}
  /-- Where the channel is launched from. -/
  source : String := Launch.defaultSource

namespace Channel

/-- Runs a channel. Units that do not load are left out. -/
def run (channel : Channel) (interpreter : Interpreter) : RunRecord :=
  let (program, findings) := LinkedProgram.load .standard channel.manifest channel.units
  let context : RunContext :=
    { files := channel.device.files, readings := channel.device.readings }
  let (result, context) :=
    Launch.execute interpreter channel.source program.statements context
  let (outcome, fault) := match result with
    | .ok results => (Outcome.success results, none)
    | .error fault => (Outcome.error fault.message, some fault)
  { summary := ⟨outcome, .finished, program.libraries, program.units⟩
    findings := findings
    fault := fault
    context := context }

/-- The channel of an installed package. -/
def ofInstalled (installed : Package.Installed) : Channel :=
  { units := installed.units, manifest := installed.manifest, device := installed.device }

end Channel

namespace Finding

/-- A problem with the source text around it, as lines of one text. -/
def report (finding : Finding) : String :=
  Report.render finding.diagnostic finding.source

end Finding

/-- How serious an entry of the log is. -/
inductive Severity where
  | warning
  | error
  deriving DecidableEq, Repr

/-- An entry of the log. -/
structure LogEntry where
  severity : Severity
  message : String
  deriving DecidableEq, Repr

def Severity.text : Severity → String
  | .warning => "WARN"
  | .error => "ERROR"

namespace RunRecord

/-- The warnings of a run as entries of the log. -/
def warningLog (record : RunRecord) : List LogEntry := record.context.warnings.map (⟨.warning, ·⟩)

/-- The log of a run whose problems are reported nowhere else. -/
def fullLog (record : RunRecord) : List LogEntry :=
  record.findings.map (fun finding => ⟨.error, finding.report⟩) ++ record.warningLog ++
    (record.fault.map fun fault => ⟨.error, fault.message⟩).toList

end RunRecord

end BrightScript
