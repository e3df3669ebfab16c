import HttpAudit.Text.Utf8
import HttpAudit.Url.Web
import HttpAudit.Zlib.Inflate

/-!
# Requests to a collector

A message is delivered to a collector by an HTTP request whose body is the message, compressed or
as it is. The collector has taken the message if and only if it answers that there is no content.

## Main definitions

* `HttpAudit.Endpoint` — a collector, and how loggers introduce themselves to it.
* `HttpAudit.Request` — a request.
* `HttpAudit.Endpoint.request` — the request that delivers a message.
* `HttpAudit.Reply` — what becomes of a request.
* `HttpAudit.DeliveryError` — why a message was not delivered.
-/

namespace HttpAudit

/-- How the body of a request holds a message. -/
inductive Encoding where
  /-- As it is. -/
  | identity
  /-- Compressed. -/
  | deflated
  deriving DecidableEq, Repr

namespace Encoding

/-- The name of the encoding. -/
def name : Encoding → String
  | identity => "identity"
  | deflated => "deflated"

/-- The bytes as they are sent. -/
def encode : Encoding → List UInt8 → List UInt8
  | identity, bytes => bytes
  | deflated, bytes => Zlib.compress bytes

/-- The bytes that were encoded. -/
def decode? : Encoding → List UInt8 → Option (List UInt8)
  | identity, bytes => some bytes
  | deflated, bytes => Zlib.decompress bytes

end Encoding

/-- A request. All requests have the method `POST`. -/
structure Request where
  /-- Where it goes to. -/
  url : WebUrl
  /-- The type of the body. -/
  contentType : String
  /-- The encoding of the body. -/
  encoding : Encoding
  /-- Who sends it. -/
  userAgent : Option String
  /-- The body. -/
  body : List UInt8
  deriving DecidableEq, Repr

/-- A collector, and how loggers introduce themselves to it. -/
structure Endpoint where
  /-- The address of the collector. -/
  url : WebUrl
  /-- The name that loggers give, if it can be a header. -/
  userAgent : Option String
  deriving DecidableEq, Repr

/-- Whether a character may stand in a header: any but control characters, apart from the tab. -/
def isHeaderChar (c : Char) : Bool :=
  c == '\t' || (32 ≤ c.toNat && c.toNat != 127)

namespace Endpoint

/-- The name that loggers give, if it can be a header. -/
def introduction? (agent version : String) : Option String :=
  let name := "Resurface/" ++ version ++ " (" ++ agent ++ ")"
  if name.toList.all isHeaderChar then some name else none

/-- The endpoint at a URL. Without encryption it is used only if that is allowed. -/
def ofUrl? (allowHttp : Bool) (agent version url : String) : Option Endpoint :=
  match WebUrl.parse? url.toList with
  | some url =>
    if url.secure || allowHttp then some ⟨url, introduction? agent version⟩ else none
  | none => none

/-- The request that delivers a message. -/
def request (e : Endpoint) (encoding : Encoding) (message : String) : Request where
  url := e.url
  contentType := "application/json;charset=UTF-8"
  encoding := encoding
  userAgent := e.userAgent
  body := encoding.encode (Text.Utf8.encode message.toList)

end Endpoint

/-- What becomes of a request. -/
inductive Reply where
  /-- It is answered with this status. -/
  | status (code : Nat)
  /-- There is no answer, for this reason. -/
  | unreachable (reason : String)
  deriving DecidableEq, Repr

/-- Why a message was not delivered. -/
inductive DeliveryError where
  /-- There was no answer. -/
  | transport (reason : String)
  /-- The answer was not that there is no content. -/
  | unexpectedStatus (code : Nat)
  deriving DecidableEq, Repr

/-- The text of an error. -/
def DeliveryError.message : DeliveryError → String
  | transport reason => "Failed to deliver message: " ++ reason
  | unexpectedStatus code => "Collector responded with unexpected status " ++ toString code

namespace Reply

/-- The status which says that a collector has taken a message. -/
def noContent : Nat := 204

/-- Why a message was not delivered, if it was not. -/
def error? : Reply → Option DeliveryError
  | status code => if code = noContent then none else some (.unexpectedStatus code)
  | unreachable reason => some (.transport reason)

/-- Whether a message was delivered. -/
def isSuccess (reply : Reply) : Bool := reply.error?.isNone

/-- What is written to the log about a message that was not delivered. -/
def warning? (reply : Reply) : Option String :=
  reply.error?.map fun error => "Failed to deliver usage message: " ++ error.message

end Reply

end HttpAudit
