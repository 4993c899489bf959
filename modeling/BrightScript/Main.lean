import BrightScript.CommandLine

open BrightScript

def readFile? (path : String) : IO (Option String) :=
  try return some (← IO.FS.readFile path) catch _ => return none

/-- Carries out what the arguments ask for. -/
def main (arguments : List String) : IO UInt32 := do
  let paths := ((CommandLine.parse? arguments).map Command.files).getD []
  let contents ← paths.mapM fun path => return (path, ← readFile? path)
  let exit := CommandLine.run arguments fun path => (contents.lookup path).join
  IO.print exit.output
  IO.eprint exit.errors
  return exit.code.toUInt32
