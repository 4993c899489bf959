import BrightScript.Channel.Run
import BrightScript.Json.Reader

namespace BrightScript

/-- What the arguments ask for. -/
inductive Command where
  | help
  | eval (code : String)
  | run (files : List String) (manifest device : Option String) (source : String)
  | package (message : String)
  | check (files : List String) (manifest : Option String)
  deriving DecidableEq, Repr

/-- What a program run from the command line leaves behind. -/
structure Exit where
  code : Nat := 0
  output : String := ""
  errors : String := ""
  deriving DecidableEq, Repr

namespace CommandLine

/-- The arguments of a command, sorted: options with their values, and the others in order. -/
structure Arguments where
  options : List (String × String) := []
  positions : List String := []
  help : Bool := false
  deriving DecidableEq, Repr

/-- The arguments that a command takes. -/
structure Form where
  /-- The options, each with a value that is a path. -/
  pathOptions : List String := []
  /-- The options, each with a value that is any text. -/
  textOptions : List String := []
  /-- How many other arguments there may be, if that is limited. -/
  most : Option Nat := none
  /-- Whether the other arguments are paths. -/
  paths : Bool := true
  deriving DecidableEq, Repr

/-- The form of a command. -/
def form? : String → Option Form
  | "eval" => some { most := some 1, paths := false }
  | "run" => some { pathOptions := ["--manifest", "--device"], textOptions := ["--source"] }
  | "package" => some { most := some 1 }
  | "check" => some { pathOptions := ["--manifest"] }
  | _ => none

/-- Whether an argument is read as an option. A hyphen alone is not. -/
def isOption (argument : String) : Bool :=
  match argument.toList with
  | '-' :: _ :: _ => true
  | _ => false

/-- Whether an argument asks for help. Letters behind the short option are not read any more. -/
def isHelp (argument : String) : Bool :=
  match argument.toList with
  | '-' :: 'h' :: _ => true
  | _ => argument == "--help"

/-- The name and the value of an option that has both in one argument. -/
def splitOption (argument : String) : String × Option String :=
  match Text.splitOnce '=' argument.toList with
  | some (name, value) => (String.ofList name, some (String.ofList value))
  | none => (argument, none)

/-- Adds an option that is known and was not given before. A path is not empty. -/
def Arguments.addOption (arguments : Arguments) (form : Form) (name value : String) :
    Option Arguments :=
  let known := form.textOptions.contains name || (form.pathOptions.contains name && value != "")
  if known && (arguments.options.lookup name).isNone then
    some { arguments with options := arguments.options ++ [(name, value)] }
  else none

/-- Adds an argument that is no option, if the command takes one more. -/
def Arguments.addPosition (arguments : Arguments) (form : Form) (value : String) :
    Option Arguments :=
  if form.most.any (· ≤ arguments.positions.length) || (form.paths && value == "") then none
  else some { arguments with positions := arguments.positions ++ [value] }

/-- Sorts arguments into options and others. Behind two hyphens nothing is an option, and a request
for help ends the reading. There is no result for arguments that are wrong. -/
def sort (form : Form) (arguments : Arguments) : List String → Option Arguments
  | [] => some arguments
  | argument :: rest =>
    if argument = "--" then rest.foldlM (Arguments.addPosition · form ·) arguments
    else if !isOption argument then
      (arguments.addPosition form argument).bind fun next => sort form next rest
    else if isHelp argument then some { arguments with help := true }
    else
      match splitOption argument with
      | (name, some value) =>
        (arguments.addOption form name value).bind fun next => sort form next rest
      | (name, none) =>
        match rest with
        | [] => none
        | value :: rest =>
          if isOption value then none
          else (arguments.addOption form name value).bind fun next => sort form next rest

/-- What the arguments of a command ask for. -/
def commandOf (name : String) (arguments : Arguments) : Option Command :=
  let option (name : String) : Option String := arguments.options.lookup name
  let manifest := option "--manifest"
  match name, arguments.positions with
  | _, [] => none
  | "eval", code :: _ => some (.eval code)
  | "package", message :: _ => some (.package message)
  | "run", files =>
    let source := (option "--source").getD Launch.defaultSource
    some (.run files manifest (option "--device") source)
  | "check", files => some (.check files manifest)
  | _, _ => none

/-- What arguments ask for. There is no result for arguments that are wrong. -/
def parse? : List String → Option Command
  | [] => none
  | ["help"] => some .help
  | ["help", name] => if name = "help" || (form? name).isSome then some .help else none
  | name :: rest =>
    if isHelp name then some .help
    else
      (form? name).bind fun form =>
        (sort form {} rest).bind fun arguments =>
          if arguments.help then some .help else commandOf name arguments

end CommandLine

namespace Command

/-- The files that a command reads, in order. -/
def files : Command → List String
  | .help | .eval _ => []
  | .run files manifest device _ => files ++ manifest.toList ++ device.toList
  | .package message => [message]
  | .check files manifest => files ++ manifest.toList

/-- The exit of a command that fails. -/
def failure (message : String) : Exit := { code := 1, errors := "Error: " ++ message ++ "\n" }

/-- The text of a file, or the exit of a command that cannot read it. -/
def read (content : String → Option String) (purpose path : String) : Except Exit String :=
  match content path with
  | some text => .ok text
  | none => .error (failure ("Reading " ++ purpose ++ " " ++ path))

def readUnits (content : String → Option String) (files : List String) :
    Except Exit (List SourceUnit) :=
  files.mapM fun path => do .ok ⟨path, ← read content "source file" path⟩

def readManifest (content : String → Option String) : Option String → Except Exit Manifest
  | none => .ok .empty
  | some path => do .ok (.parse (← read content "manifest" path))

/-- The device that a file describes. -/
def readDevice (content : String → Option String) : Option String → Except Exit Device
  | none => .ok {}
  | some path => do
    match (Json.parse? (← read content "device description" path)).bind DeviceInfo.ofJson? with
    | some info => .ok { info := info }
    | none => .error (failure ("Parsing device description " ++ path))

def unlines (lines : List String) : String := String.join (lines.map (· ++ "\n"))

/-- The problems of a run as they are printed. -/
def problems (findings : List Finding) (fault : Option Fault) : String :=
  unlines (findings.map (·.report ++ "\n") ++
    (fault.map fun fault => "Runtime error: " ++ fault.message).toList)

/-- Runs a channel and prints its lines, its outcome and its problems. -/
def launch (channel : Channel) : Exit :=
  let record := channel.run (Evaluator.interpreter {})
  let outcome := record.summary.outcome
  let output := unlines (record.context.output ++ [Json.pretty (.object outcome.members)])
  let errors := problems record.findings record.fault
  match outcome with
  | .success _ => { output := output, errors := errors }
  | .error message =>
    let last := failure ("Run failed: " ++ message)
    { last with output := output, errors := errors ++ last.errors }

/-- Loads units and prints which of them fail. -/
def inspect (units : List SourceUnit) (manifest : Manifest) : Exit :=
  let (program, findings) := LinkedProgram.load .standard manifest units
  let states := program.units.map fun unit =>
    unit.path ++ ": " ++ if unit.failed then "failed" else "ok"
  let errors := problems findings none ++ unlines states
  if findings.isEmpty then { errors := errors }
  else
    let last := failure (toString findings.length ++ " problem(s) found")
    { last with errors := errors ++ last.errors }

/-- Carries out a command, given the contents of the files that can be read. -/
def execute (content : String → Option String) : Command → Except Exit Exit
  | .help => .ok {}
  | .eval code => .ok (launch { units := [⟨"eval.brs", code⟩] })
  | .run files manifest device source => do
    let units ← readUnits content files
    let manifest ← readManifest content manifest
    let device ← readDevice content device
    .ok (launch ⟨units, manifest, device, source⟩)
  | .package path => do
    let text ← read content "package message" path
    match (Json.parse? text).bind Package.ofJson? with
    | some parsed => .ok (launch (.ofInstalled parsed.install))
    | none => .error (failure "Invalid package message")
  | .check files manifest => do
    let units ← readUnits content files
    let manifest ← readManifest content manifest
    .ok (inspect units manifest)

end Command

namespace CommandLine

/-- The exit of a command line that is used wrongly. -/
def usage : Exit := { code := 2 }

/-- Carries out what arguments ask for. -/
def run (arguments : List String) (content : String → Option String) : Exit :=
  match parse? arguments with
  | none => usage
  | some command =>
    match command.execute content with
    | .ok exit => exit
    | .error exit => exit

end CommandLine

end BrightScript
