import HttpAudit.Text.Quoted

/-!
# Targets

Where messages are to go, as a configuration says it.

## Main definitions

* `HttpAudit.Target` — a target.
* `HttpAudit.Target.url?` — the URL of a target.
-/

namespace HttpAudit

/-- Where messages are to go. -/
inductive Target where
  /-- To the collector at this URL. -/
  | url (text : String)
  /-- To a queue within the process. -/
  | queue
  /-- To the collector at the URL that is used by default, if there is one. -/
  | byDefault
  deriving DecidableEq, Repr

namespace Target

/-- The URL of the target, given the one that is used by default. -/
def url? (fallback : Option String) : Target → Option String
  | url text => some text
  | queue => none
  | byDefault => fallback

/-- A description of the target. -/
def describe : Target → String
  | url text => "Url(" ++ Text.quoted text ++ ")"
  | queue => "Queue"
  | byDefault => "Default"

end Target

end HttpAudit
