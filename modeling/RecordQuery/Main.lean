import RecordQuery.CommandLine.Run

/-!
# The program

Reads the files and variables that a command needs, runs the command, and prints what it leaves.
-/
open RecordQuery

namespace RecordQuery.CommandLine

/-- The variables the program looks at. -/
def variableNames : List String :=
  [Command.configVariable, Settings.baseUrlVariable, Settings.tokenVariable,
    Settings.crossCompanyVariable, Settings.styleVariable, Settings.pageSizeVariable,
    Settings.retriesVariable, Settings.timeoutVariable]

def readVariables : IO (List (String × String)) := do
  let values ← variableNames.mapM fun name => do return (name, ← IO.getEnv name)
  return values.filterMap fun p => p.2.map (p.1, ·)

def readFile? (path : String) : IO (Option String) :=
  try return some (← IO.FS.readFile path) catch _ => return none

def readFiles (paths : List String) : IO (List (String × String)) := do
  let contents ← paths.mapM fun path => do return (path, ← readFile? path)
  return contents.filterMap fun p => p.2.map (p.1, ·)

end RecordQuery.CommandLine

def main (arguments : List String) : IO UInt32 := do
  let env ← CommandLine.readVariables
  let valueOf (name : String) : Option String := env.lookup name
  let configured := valueOf CommandLine.Command.configVariable
  let paths := match CommandLine.Command.parse configured arguments with
    | .ok command => command.files
    | .error _ => []
  let files ← CommandLine.readFiles paths
  let surroundings : CommandLine.Surroundings := ⟨fun path => files.lookup path, valueOf⟩
  let outcome := CommandLine.runArguments surroundings (CommandLine.unreachable valueOf) arguments
  IO.print outcome.output
  IO.eprint outcome.error
  return outcome.code.toUInt32
