import HttpAudit.Message.Basic

/-!
# The trailer of a message

The fields that are added to every message which the rules keep. No rule applies to them.

## Main definitions

* `HttpAudit.Interval` — a length of time.
* `HttpAudit.Trailer` — what is added to a message.
-/

namespace HttpAudit

/-- A length of time. -/
structure Interval where
  /-- The whole seconds. -/
  seconds : Nat
  /-- The nanoseconds beyond these. -/
  nanoseconds : Nat
  deriving DecidableEq, Repr

namespace Interval

/-- The length of time in nanoseconds. -/
def nanos (interval : Interval) : Nat :=
  interval.seconds * Nat.pow 10 9 + interval.nanoseconds

/-- The length of time in milliseconds, as a decimal number. -/
def text (interval : Interval) : String :=
  ((Double.ofRatio interval.nanos 1).div (Double.ofRatio (Nat.pow 10 6) 1)).toPlainText

end Interval

/-- What is added to a message. -/
structure Trailer where
  /-- The time, in milliseconds. -/
  now : String
  /-- How long the exchange took. -/
  interval : Option Interval
  /-- The name of the program. -/
  agent : String
  /-- The name of the machine. -/
  host : String
  /-- The version of the program. -/
  version : String
  deriving DecidableEq, Repr

namespace Trailer

/-- The fields that are added. -/
def fields (t : Trailer) : List (String × String) :=
  ("now", t.now) ::
    ((t.interval.map fun interval => ("interval", interval.text)).toList ++
      [("agent", t.agent), ("host", t.host), ("version", t.version)])

/-- The message with the trailer added. -/
def addTo (t : Trailer) (m : Message) : Message := m.append t.fields

end Trailer

end HttpAudit
