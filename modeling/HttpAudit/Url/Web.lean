import HttpAudit.Url.Domain

/-!
# Web addresses

The URLs that messages can be sent to: those with the scheme `http` or `https`.

## Main definitions

* `HttpAudit.WebUrl` — such a URL.
* `HttpAudit.WebUrl.parse?` — the URL with a given text.

## Design

Texts are read leniently, as browsers do: blanks around a URL and line breaks within it do not
count, any number of slashes may follow the scheme, and what comes behind the host is never an
error. A text without a scheme, and one without a host, is no such URL.
-/

namespace HttpAudit

/-- A URL with the scheme `http` or `https`. -/
structure WebUrl where
  /-- Whether the scheme is `https`. -/
  secure : Bool
  /-- The host. -/
  host : Url.Host
  /-- The number behind the host, if one is given. -/
  portNumber : Option Nat
  /-- What follows the host: path, query and fragment. -/
  rest : List Char
  deriving DecidableEq, Repr

namespace WebUrl

/-- Whether a character is left out at the ends of a URL. -/
def isOuterBlank (c : Char) : Bool := c.toNat ≤ 32

/-- Whether a character is left out wherever it occurs. -/
def isIgnored (c : Char) : Bool := c == '\t' || c == '\n' || c == '\r'

/-- The text without the characters that do not count. -/
def clean (s : List Char) : List Char :=
  (((s.dropWhile isOuterBlank).reverse.dropWhile isOuterBlank).reverse).filter (!isIgnored ·)

/-- Whether a character may stand in a scheme behind its first letter. -/
def isSchemeChar (c : Char) : Bool :=
  c.isAlphanum || c == '+' || c == '-' || c == '.'

/-- The scheme in lower case, and the text behind its colon. -/
def scheme? (s : List Char) : Option (List Char × List Char) :=
  match s with
  | [] => none
  | c :: _ =>
    match c.isAlpha, s.dropWhile isSchemeChar with
    | true, ':' :: rest => some ((s.takeWhile isSchemeChar).map Char.toLower, rest)
    | _, _ => none

/-- Whether a character is a slash, in either direction. -/
def isSlash (c : Char) : Bool := c == '/' || c == '\\'

/-- Whether a character ends the part of a URL that names the host. -/
def endsAuthority (c : Char) : Bool := isSlash c || c == '?' || c == '#'

/-- The text behind the last at sign, or all of it. -/
def dropUser (s : List Char) : List Char :=
  (s.reverse.takeWhile (· != '@')).reverse

/-- The text before the first colon outside of brackets, and the text from there on. -/
def splitPort (inBrackets : Bool) : List Char → List Char × List Char
  | [] => ([], [])
  | c :: rest =>
    if c == ':' && !inBrackets then ([], c :: rest)
    else
      let inside := if c == '[' then true else if c == ']' then false else inBrackets
      let (before, after) := splitPort inside rest
      (c :: before, after)

/-- The number behind a colon, or none. -/
def portNumber? (s : List Char) : Option (Option Nat) :=
  match s with
  | [] => some none
  | _ :: digits =>
    if digits.all Char.isDigit then
      let n := digits.foldl (fun n d => 10 * n + (d.toNat - '0'.toNat)) 0
      if 65535 < n then none else some (if digits.isEmpty then none else some n)
    else none

/-- The URL with a given text. -/
def parse? (text : List Char) : Option WebUrl := do
  let (scheme, rest) ← scheme? (clean text)
  let secure ←
    if scheme == "https".toList then some true
    else if scheme == "http".toList then some false
    else none
  let rest := rest.dropWhile isSlash
  let authority := rest.takeWhile (!endsAuthority ·)
  let (hostText, numberText) := splitPort false (dropUser authority)
  let host ← Url.host? hostText
  let portNumber ← portNumber? numberText
  some ⟨secure, host, portNumber, rest.dropWhile (!endsAuthority ·)⟩

end WebUrl

end HttpAudit
