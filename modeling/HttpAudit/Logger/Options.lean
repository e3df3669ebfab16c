import HttpAudit.Delivery.Pipeline
import HttpAudit.Policy.Defaults

/-!
# Options of a logger

## Main definitions

* `HttpAudit.LoggerOptions` — what a logger is made from.
-/

namespace HttpAudit

/-- What a logger is made from. -/
structure LoggerOptions where
  /-- Where messages are to go. -/
  target : Target := .byDefault
  /-- The rules, or the file that they are in. -/
  rules : Option String := none
  /-- The rules that are used by default, unless these are the strict ones. -/
  defaultRules : Option DefaultRules := none
  /-- The URL that is used by default. -/
  defaultUrl : Option String := none
  /-- Whether the logger starts enabled. -/
  enabled : Bool := true
  /-- The greatest number of deliveries that run at the same time. -/
  maxInFlight : Nat := 128
  /-- The name of the program. -/
  agent : String := "http_logger.rs"
  /-- The name of the machine. -/
  host : String := "unknown"
  /-- The version of the program. -/
  version : String := "0.1.0"

end HttpAudit
