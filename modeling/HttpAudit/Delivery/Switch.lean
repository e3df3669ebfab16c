/-!
# The switch of a process

A switch that all loggers of a process obey. The configuration of the process can turn it off for
good.

## Main definitions

* `HttpAudit.Switch` — the state of the switch.
* `HttpAudit.Switch.isEnabled` — whether loggers may work.
-/

namespace HttpAudit

/-- The state of the switch. -/
structure Switch where
  /-- Whether it is off. -/
  disabled : Bool := false
  /-- Whether it cannot be turned on. -/
  hardDisabled : Bool := false
  deriving DecidableEq, Repr

namespace Switch

/-- Whether loggers may work. -/
def isEnabled (s : Switch) : Bool := !s.disabled

/-- The switch turned off. -/
def disable (s : Switch) : Switch := { s with disabled := true }

/-- The switch turned on, unless it cannot be. -/
def enable (s : Switch) : Switch :=
  if s.hardDisabled then s else { s with disabled := false }

/-- The switch after the configuration has said whether it is off for good. -/
def setHardDisabled (s : Switch) (hard : Bool) : Switch :=
  ⟨s.disabled || hard, hard⟩

end Switch

/-- Whether a flag or the value of an environment variable turns off the loggers for good. -/
def isHardDisabled (flag : Bool) (value : Option String) : Bool :=
  flag || value == some "true"

end HttpAudit
