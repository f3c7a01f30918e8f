import CatalogQuery.Command.Relay

/-!
# The command

Runs the command with the arguments and the environment of its process.  The
pages go to standard output, requests for the relay and the log to standard
error; the answers of the relay are read from standard input.
-/

namespace CatalogQuery

/-- The variables of the environment that hold settings. -/
def readEnvironment : IO (List (String × String)) := do
  let found ← SettingName.variableNames.mapM fun name => do return (name, ← IO.getEnv name)
  return found.filterMap fun (name, text) => text.map (name, ·)

/-- Pass the requests of a run to the relay until the run ends. -/
partial def drive (server : String) : RunStep → IO (Report × Failure)
  | .ended report result => return (report, result)
  | .waiting run voyage request => do
      IO.eprintln (Relay.requestLine server request)
      let line ← (← IO.getStdin).getLine
      drive server (run.resume voyage (Relay.arrivalOfLine line))

/-- Run the command: the code that it ends with. -/
def runCommand (texts : List String) : IO UInt32 := do
  let environment ← readEnvironment
  let server := match Settings.ofEnvironment environment with
    | .ok settings => Relay.serverOf settings
    | .error _ => ""
  let (level, step) := Run.start environment texts
  let (report, result) ← drive server step
  IO.print report.output
  for record in level.filter report.log do
    IO.eprintln (Relay.logLine record)
  if let some text := Relay.farewell? result then
    IO.eprintln text
  return Relay.exitCode result

end CatalogQuery

def main (args : List String) : IO UInt32 := CatalogQuery.runCommand args
