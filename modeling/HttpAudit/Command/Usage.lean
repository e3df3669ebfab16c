/-!
# Command lines that are not carried out

## Main definitions

* `HttpAudit.UsageError` — why a command line is not carried out.
* `HttpAudit.UsageError.exitCode` — with which code the program then ends.
-/

namespace HttpAudit

/-- Why a command line is not carried out. -/
inductive UsageError where
  /-- It asks for help. -/
  | help
  /-- It asks for the version of the program. -/
  | version
  /-- It is empty. -/
  | empty
  /-- It names no command. -/
  | missingCommand
  /-- It names a command that there is not. -/
  | unknownCommand
  /-- It has an argument that the command does not know. -/
  | unknownArgument
  /-- An option has no value, or not a possible one. -/
  | invalidValue
  /-- An option is given more than once. -/
  | repeatedOption
  /-- An option has a value but takes none. -/
  | needlessValue
  deriving DecidableEq, Repr

/-- The code with which the program ends. Only what was asked for is no failure. -/
def UsageError.exitCode : UsageError → Nat
  | help | version => 0
  | _ => 2

end HttpAudit
