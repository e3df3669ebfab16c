import HttpAudit.Command.Needs
import Std.Time.DateTime.Timestamp

/-!
# The program

The command line program: it reads what a command needs, carries the command out, and writes what
comes of it. It makes no connections of its own, so that no message is delivered.
-/

namespace HttpAudit

/-- The environment variables that the program knows. -/
def variableNames : List String :=
  ["USAGE_LOGGERS_URL", "HOSTNAME", Command.disableVariable]

/-- Reads the environment variables. -/
def readEnvironment : IO Environment := do
  let values ← variableNames.mapM fun name => do return (name, ← IO.getEnv name)
  return fun name => (values.lookup name).join

/-- Reads files. Those that cannot be read are left out. -/
def readFiles (paths : List String) : IO Files := do
  let contents ← paths.mapM fun (path : String) => do
    let bytes ← try some <$> IO.FS.readBinFile path catch _ => pure none
    return (path, bytes.map (·.toList))
  return fun path => (contents.lookup path).join

/-- Reads the files that a command needs. -/
def gatherFiles (command : Command) : IO Files := do
  let first ← readFiles (command.paths fun _ => none)
  readFiles (command.paths first)

/-- The current time in milliseconds. -/
def currentTime : IO String := do
  let now ← Std.Time.Timestamp.now
  return toString now.toMillisecondsSinceUnixEpoch.toInt

/-- What is written about a command line that is not carried out. -/
def UsageError.message : UsageError → String
  | help | empty => "Usage: httpaudit [--quiet] [--debug] check|apply|submit [OPTIONS]"
  | version => "0.1.0"
  | missingCommand => "error: a command is required"
  | unknownCommand => "error: there is no such command"
  | unknownArgument => "error: unexpected argument"
  | invalidValue => "error: an option needs a value"
  | repeatedOption => "error: an option is given more than once"
  | needlessValue => "error: an option takes no value"

/-- What is written about a command that fails. -/
def CommandError.report (error : CommandError) : String :=
  match error.cause? with
  | some cause => "Error: " ++ error.message ++ "\n\nCaused by:\n    " ++ cause.message
  | none => "Error: " ++ error.message

/-- Reads what a command needs, and carries it out. -/
def perform (environment : Environment) (command : Command) : IO UInt32 := do
  let stdin ← if command.readsStdin then (← IO.getStdin).readBinToEnd else pure .empty
  let surroundings : Surroundings := {
    files := ← gatherFiles command
    stdin := stdin.toList
    environment
    now := ← currentTime
    draw := ⟨← IO.rand 0 (Nat.pow 2 53 - 1)⟩
    network := fun _ => .unreachable "no connection" }
  match command.run surroundings with
  | .ok output =>
    IO.print output
    return 0
  | .error error =>
    IO.eprintln error.report
    return 1

end HttpAudit

open HttpAudit

/-- The program with its arguments. -/
def main (args : List String) : IO UInt32 := do
  let environment ← readEnvironment
  match Invocation.parse environment args with
  | .ok invocation => perform environment invocation.command
  | .error error =>
    if error.exitCode = 0 then IO.println error.message else IO.eprintln error.message
    return UInt32.ofNat error.exitCode
