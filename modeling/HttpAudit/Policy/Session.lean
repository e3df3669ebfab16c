import HttpAudit.Message.FactsJson
import HttpAudit.Policy.Apply

/-!
# Fields of the session

Entries of the session that a policy names are copied into the message.

## Main definitions

* `HttpAudit.Policy.sessionFields` — the fields that a policy copies from a session.
-/

namespace HttpAudit

/-- The value of an entry as it is copied: a text as it is, any other value as JSON. -/
def sessionValue : Json → String
  | .string s => s
  | value => value.render

/-- The session that a JSON value denotes. -/
def Session.ofJson? : Json → Option Session :=
  Json.list? (Json.pair? some)

namespace Policy

/-- The fields that the policy copies from a session, for each of its rules in turn. -/
def sessionFields (p : Policy) (session : Session) : List (String × String) :=
  (p.rulesFor .copySessionField).flatMap fun rule =>
    (session.filter fun entry => rule.valueMatches entry.1).map fun (key, value) =>
      ("session_field:" ++ key, sessionValue value)

/-- The message with the fields that the policy copies from a session. -/
def copySessionFields (p : Policy) (session : Session) (m : Message) : Message :=
  m.append (p.sessionFields session)

end Policy

end HttpAudit
