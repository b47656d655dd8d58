import Std.Time.Format
import Std.Time.Zoned
import Courier.LogLine
import Courier.Program

/-!
# The command

Reads the arguments, the file of settings and the environment, and prints what the program shows.
-/

namespace Courier.Command

def variableNames : List String :=
  ["POSTBOX_CONNECT_STRING", "POSTBOX_CLIENT_ID", "POSTBOX_IDLE_INTERVAL_MS"]

def readText? (path : String) : IO (Option String) := do
  try
    return Bytes.text? (← IO.FS.readBinFile path).toList
  catch _ =>
    return none

def environment : IO (String → Option String) := do
  let found ← variableNames.filterMapM fun name => do
    return (← IO.getEnv name).map fun value => (name, value)
  return fun name => found.lookup name

def timestamp : IO String := do
  return (← Std.Time.PlainDateTime.now).format "uuuu-MM-dd HH:mm:ss.SSS"

def printEvents (f : LogFormat) (events : List Event) : IO Unit := do
  for e in events do
    IO.print (f.eventLine (← timestamp) e)

/-- How log lines are written: in colour on a terminal that knows colours. -/
def logFormat : IO LogFormat := do
  let isTerminal ← (← IO.getStdout).isTty
  let kind? ← IO.getEnv "TERM"
  return { service := "postbox", color := isTerminal && kind?.any (· ≠ "dumb") }

def printReport (r : Program.Report) : IO UInt32 := do
  let f ← logFormat
  printEvents f (r.shown r.journal)
  if let some summary := r.printed? then
    IO.println summary.toJson
  printEvents f (r.shown r.closing)
  if let some trouble := r.trouble? then
    IO.eprintln ("Error: " ++ trouble.message)
  return r.exitCode

end Courier.Command

def main (args : List String) : IO UInt32 := do
  match Courier.CommandLine.read args with
  | .error cause =>
    IO.eprintln ("error: " ++ cause.message)
    return Courier.Program.usageExitCode
  | .ok .help =>
    IO.println Courier.CommandLine.help
    return 0
  | .ok .version =>
    IO.println Courier.Program.versionLine
    return 0
  | .ok (.run options) =>
    let file? ← Courier.Command.readText? options.config
    let env ← Courier.Command.environment
    Courier.Command.printReport (Courier.Program.run options file? env)
