/-!
# Canned policies

The policies that can be included by name.

## Main definitions

* `HttpAudit.Canned` — the names of the policies.
* `HttpAudit.Canned.text` — the rules of each.
-/

namespace HttpAudit

/-- The policies that can be included by name. -/
inductive Canned where
  /-- Everything is kept. -/
  | debug
  /-- Cookies are removed, and e-mail addresses and long numbers are masked. -/
  | standard
  /-- The path of the request, the user agent and the kind of the response's content are kept. -/
  | strict
  deriving DecidableEq, Repr

namespace Canned

/-- The names of the policies, in the order in which they are included. -/
def all : List Canned := [debug, standard, strict]

/-- The name that a policy is included by. -/
def name : Canned → String
  | debug => "debug"
  | standard => "standard"
  | strict => "strict"

/-- The rules that keep everything. -/
def debugText : String :=
  "allow_http_url\ncopy_session_field /.*/\n"

/-- The rules that remove cookies and mask e-mail addresses and long numbers. -/
def standardText : String :=
  "/request_header:cookie|response_header:set-cookie/ remove\n" ++
  "/(request|response)_body|request_param/ replace " ++
  "/[a-zA-Z0-9.!#$%&’*+\\/=?^_`\x7b|\x7d~-]+@[a-zA-Z0-9-]+(?:\\.[a-zA-Z0-9-]+)/, /x@y.com/\n" ++
  "/request_body|request_param|response_body/ replace /[0-9\\.\\-\\/]\x7b9,\x7d/, /xyxy/\n"

/-- The pattern for the names of the fields that are removed where only the path of the request, the
user agent and the kind of the response's content are kept. As patterns have no look-ahead, the
headers are described letter by letter. -/
def strictRemoved : String :=
  "(request_body|response_body|request_param:.*" ++
  "|request_header:([^u].*|u([^s].*)?|us([^e].*)?|use([^r].*)?|user([^-].*)?|user-([^a].*)?" ++
  "|user-a([^g].*)?|user-ag([^e].*)?|user-age([^n].*)?|user-agen([^t].*)?)?" ++
  "|response_header:([^c].*|c([^o].*)?|co([^n].*)?|con([^t].*)?|cont([^e].*)?|conte([^n].*)?" ++
  "|conten([^t].*)?|content([^-].*)?|content-([^lt].*)?" ++
  "|content-l([^e].*)?|content-le([^n].*)?|content-len([^g].*)?|content-leng([^t].*)?" ++
  "|content-lengt([^h].*)?" ++
  "|content-t([^y].*)?|content-ty([^p].*)?|content-typ([^e].*)?)?)"

/-- The rules that keep the path of the request, the user agent and the kind of the response's
content. -/
def strictText : String :=
  "/request_url/ replace /([^\\?;]+).*/, /$1/\n" ++ ("/" ++ strictRemoved ++ "/ remove\n")

/-- The rules of a policy. -/
def text : Canned → String
  | debug => debugText
  | standard => standardText
  | strict => strictText

end Canned

end HttpAudit
