import HttpAudit.Json.Value

/-!
# Facts about an exchange

What a server knows of a request and of the response to it.

## Main definitions

* `HttpAudit.HeaderValue` — the value of a header, or several values.
* `HttpAudit.RequestFacts`, `HttpAudit.ResponseFacts` — what is known of each.
* `HttpAudit.Session` — the entries of a session.
-/

namespace HttpAudit

/-- The value of a header. -/
inductive HeaderValue where
  /-- One value. -/
  | single (value : String)
  /-- Any number of values. -/
  | multiple (values : List String)
  deriving DecidableEq, Repr

/-- All of a header's values, joined without a separator. -/
def HeaderValue.joined : HeaderValue → String
  | single value => value
  | multiple values => String.join values

/-- The entries of a session, in order. -/
abbrev Session := List (String × Json)

/-- What is known of a request. -/
structure RequestFacts where
  /-- The method. -/
  method : Option String := none
  /-- The scheme of its URL. -/
  protocol : Option String := none
  /-- The host of its URL. -/
  hostname : Option String := none
  /-- The path and the query of its URL. -/
  url : Option String := none
  /-- The headers. -/
  headers : List (String × HeaderValue) := []
  /-- The parameters in the body. -/
  bodyParams : List (String × String) := []
  /-- The parameters in the query. -/
  queryParams : List (String × String) := []
  /-- The session that it belongs to. -/
  session : Session := []

/-- What is known of a response. -/
structure ResponseFacts where
  /-- The status code. -/
  statusCode : Option Nat := none
  /-- The headers. -/
  headers : List (String × HeaderValue) := []
  deriving DecidableEq, Repr

end HttpAudit
