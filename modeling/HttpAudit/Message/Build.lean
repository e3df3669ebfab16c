import HttpAudit.Message.Basic
import HttpAudit.Message.Facts
import HttpAudit.Text.Lowercase

/-!
# The message of an exchange

## Main definitions

* `HttpAudit.Exchange` — a request and its response, with their bodies.
* `HttpAudit.Exchange.message` — the message that describes an exchange.
-/

namespace HttpAudit

/-- A request and its response, with their bodies as far as they were captured. -/
structure Exchange where
  /-- What is known of the request. -/
  request : RequestFacts := {}
  /-- What is known of the response. -/
  response : ResponseFacts := {}
  /-- The body of the response. -/
  responseBody : Option String := none
  /-- The body of the request. -/
  requestBody : Option String := none

namespace Exchange

/-- A field whose name is made of a family and a name in lower case. -/
def familyField (family name value : String) : String × String :=
  (family ++ ":" ++ .ofList (Text.lowercase name.toList), value)

/-- The fields for the method of a request. -/
def methodFields (request : RequestFacts) : List (String × String) :=
  match request.method with
  | some method => [("request_method", method)]
  | none => []

/-- The fields for the URL of a request, all parts of which must be known. -/
def urlFields (request : RequestFacts) : List (String × String) :=
  match request.protocol, request.hostname, request.url with
  | some protocol, some hostname, some url =>
    [("request_url", protocol ++ "://" ++ hostname ++ url)]
  | _, _, _ => []

/-- The fields for the status of a response. -/
def statusFields (response : ResponseFacts) : List (String × String) :=
  match response.statusCode with
  | some code => [("response_code", toString code)]
  | none => []

/-- The fields for headers. -/
def headerFields (family : String) (headers : List (String × HeaderValue)) :
    List (String × String) :=
  headers.map fun (name, value) => familyField family name value.joined

/-- The fields for parameters. -/
def paramFields (params : List (String × String)) : List (String × String) :=
  params.map fun (name, value) => familyField "request_param" name value

/-- The fields for a body, which must not be empty. -/
def bodyFields (name : String) : Option String → List (String × String)
  | some body => if body.isEmpty then [] else [(name, body)]
  | none => []

/-- The message that describes the exchange. -/
def message (e : Exchange) : Message :=
  ⟨methodFields e.request ++ urlFields e.request ++ statusFields e.response ++
    headerFields "request_header" e.request.headers ++
    paramFields (e.request.bodyParams ++ e.request.queryParams) ++
    headerFields "response_header" e.response.headers ++
    bodyFields "request_body" e.requestBody ++ bodyFields "response_body" e.responseBody⟩

end Exchange

end HttpAudit
