import HttpAudit.Json.Record
import HttpAudit.Message.Facts

/-!
# Facts as JSON

Facts are written as objects whose members stand in a fixed order. They are read from objects, in
which members may be missing and others are ignored, or from lists of the members' values, of
which the last ones may be missing.

## Main definitions

* `HttpAudit.RequestFacts.toJson`, `HttpAudit.ResponseFacts.toJson` — facts as JSON.
* `HttpAudit.RequestFacts.ofJson?`, `HttpAudit.ResponseFacts.ofJson?` — the facts of a JSON value.
* `HttpAudit.RequestFacts.ofText?`, `HttpAudit.ResponseFacts.ofText?` — the facts in a text.
-/

namespace HttpAudit

namespace Json

/-- A value that may be absent, as JSON. -/
def ofOption {α : Type} (f : α → Json) : Option α → Json
  | some a => f a
  | none => .null

/-- A list as JSON. -/
def ofList {α : Type} (f : α → Json) (xs : List α) : Json := .array (xs.map f)

/-- A pair of a text and a value as JSON. -/
def ofEntry {α : Type} (f : α → Json) (entry : String × α) : Json :=
  .array [.string entry.1, f entry.2]

/-- The text that a JSON value is. -/
def text? : Json → Option String
  | .string s => some s
  | _ => none

/-- The value that a JSON value other than `null` denotes; `null` stands for none. -/
def optional? {α : Type} (f : Json → Option α) : Json → Option (Option α)
  | .null => some none
  | j => (f j).map some

/-- The list that a JSON value denotes. -/
def list? {α : Type} (f : Json → Option α) : Json → Option (List α)
  | .array items => items.mapM f
  | _ => none

/-- The pair of a text and a value that a JSON value denotes. -/
def pair? {α : Type} (f : Json → Option α) : Json → Option (String × α)
  | .array [.string key, value] => (f value).map fun a => (key, a)
  | _ => none

/-- The number of at most sixteen bits that a JSON value is. -/
def word16? : Json → Option Nat
  | .number (.natural n) => if n < Nat.pow 2 16 then some n else none
  | _ => none

/-- The values of the named members of an object, or of a list in this order, where some may be
missing. -/
def members? (names : List String) : Json → Option (List (Option Json))
  | .object members => some (names.map fun name => members.lookup name)
  | .array items =>
    if items.length ≤ names.length then
      some (items.map some ++ List.replicate (names.length - items.length) none)
    else none
  | _ => none

/-- The value of a member, or a default one if it is missing. -/
def orDefault? {α : Type} (default : α) (f : Json → Option α) : Option Json → Option α
  | none => some default
  | some j => f j

end Json

namespace HeaderValue

/-- The value as JSON. -/
def toJson : HeaderValue → Json
  | single value => .string value
  | multiple values => Json.ofList .string values

/-- The value that a JSON value denotes. -/
def ofJson? : Json → Option HeaderValue
  | .string s => some (single s)
  | j => (Json.list? Json.text? j).map multiple

end HeaderValue

namespace RequestFacts

/-- The names of the members, in order. -/
def memberNames : List String :=
  ["method", "protocol", "hostname", "url", "headers", "body_params", "query_params", "session"]

/-- The values of the members, in order. -/
def memberValues (facts : RequestFacts) : List Json :=
  [Json.ofOption .string facts.method, Json.ofOption .string facts.protocol,
   Json.ofOption .string facts.hostname, Json.ofOption .string facts.url,
   Json.ofList (Json.ofEntry HeaderValue.toJson) facts.headers,
   Json.ofList (Json.ofEntry .string) facts.bodyParams,
   Json.ofList (Json.ofEntry .string) facts.queryParams,
   Json.ofList (Json.ofEntry id) facts.session]

/-- The facts as JSON. -/
def toJson (facts : RequestFacts) : Json :=
  .object (memberNames.zip facts.memberValues)

/-- The facts that a JSON value denotes. -/
def ofJson? (j : Json) : Option RequestFacts := do
  match ← Json.members? memberNames j with
  | [method, protocol, hostname, url, headers, bodyParams, queryParams, session] =>
    let text := Json.orDefault? none (Json.optional? Json.text?)
    let list {α : Type} (f : Json → Option α) :=
      Json.orDefault? [] (Json.list? (Json.pair? f))
    some
      { method := ← text method
        protocol := ← text protocol
        hostname := ← text hostname
        url := ← text url
        headers := ← list HeaderValue.ofJson? headers
        bodyParams := ← list Json.text? bodyParams
        queryParams := ← list Json.text? queryParams
        session := ← list some session }
  | _ => none

/-- The facts that a text denotes. -/
def ofText? (text : String) : Option RequestFacts :=
  Json.decodeText? memberNames ofJson? text

end RequestFacts

namespace ResponseFacts

/-- The names of the members, in order. -/
def memberNames : List String := ["status_code", "headers"]

/-- The values of the members, in order. -/
def memberValues (facts : ResponseFacts) : List Json :=
  [Json.ofOption (fun n => .number (.natural n)) facts.statusCode,
   Json.ofList (Json.ofEntry HeaderValue.toJson) facts.headers]

/-- The facts as JSON. -/
def toJson (facts : ResponseFacts) : Json :=
  .object (memberNames.zip facts.memberValues)

/-- The facts that a JSON value denotes. -/
def ofJson? (j : Json) : Option ResponseFacts := do
  match ← Json.members? memberNames j with
  | [statusCode, headers] =>
    some
      { statusCode := ← Json.orDefault? none (Json.optional? Json.word16?) statusCode
        headers := ←
          Json.orDefault? [] (Json.list? (Json.pair? HeaderValue.ofJson?)) headers }
  | _ => none

/-- The facts that a text denotes. -/
def ofText? (text : String) : Option ResponseFacts :=
  Json.decodeText? memberNames ofJson? text

end ResponseFacts

end HttpAudit
