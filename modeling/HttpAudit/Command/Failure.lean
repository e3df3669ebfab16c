import HttpAudit.Config.Basic
import HttpAudit.Rule.Error

/-!
# Commands that fail

## Main definitions

* `HttpAudit.CommandError` — why a command fails.
* `HttpAudit.CommandError.message` — the text of an error.
-/

namespace HttpAudit

/-- Why a command fails. -/
inductive CommandError where
  /-- Its rules are wrong. -/
  | rules (error : RuleError)
  /-- Its configuration file cannot be used. -/
  | config (error : ConfigError)
  /-- No logger can be made, since its rules are wrong. -/
  | logger (error : RuleError)
  /-- The file of the message cannot be read. -/
  | unreadableInput (path : String)
  /-- The standard input cannot be read. -/
  | unreadableStdin
  /-- What was read is no message. -/
  | noMessage
  deriving DecidableEq, Repr

namespace CommandError

/-- The text of an error. -/
def message : CommandError → String
  | rules error => error.message
  | config error => error.message
  | logger _ => "Failed to create logger"
  | unreadableInput path => "Failed to read input file " ++ path
  | unreadableStdin => "Failed to read stdin"
  | noMessage => "Input is not a [[name, value], ...] message"

/-- The error in the rules that is behind an error, if its own text does not tell it. -/
def cause? : CommandError → Option RuleError
  | logger error => some error
  | _ => none

end CommandError

end HttpAudit
