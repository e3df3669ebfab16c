import HttpAudit.Number.Shortest

/-!
# JSON values

## Main definitions

* `HttpAudit.Json` — a JSON value.
* `HttpAudit.Json.insert` — puts a member into an object.
* `HttpAudit.Json.render` — the compact text of a value.

## Design

The members of an object are kept in the order of their keys, each key once, so that equal objects
are equal as lists. Texts are printed with as few escapes as the format allows.
-/

namespace HttpAudit

/-- A JSON number: an integer that fits into sixty-four bits, or any other number. -/
inductive Json.Number where
  /-- An integer that is not negative. -/
  | natural (n : Nat)
  /-- The integer `-n`, where `n` is not zero. -/
  | negative (n : Nat)
  /-- A double precision number. -/
  | double (d : Double)
  deriving DecidableEq, Repr

/-- A JSON value. -/
inductive Json where
  /-- The value `null`. -/
  | null
  /-- A truth value. -/
  | bool (b : Bool)
  /-- A number. -/
  | number (n : Json.Number)
  /-- A text. -/
  | string (s : String)
  /-- A list of values. -/
  | array (items : List Json)
  /-- Values with keys. -/
  | object (members : List (String × Json))
  deriving Repr

namespace Json

/-- The members of an object with another one, which takes the place of any with its key. -/
def insert (key : String) (value : Json) : List (String × Json) → List (String × Json)
  | [] => [(key, value)]
  | (k, v) :: rest =>
    if key < k then (key, value) :: (k, v) :: rest
    else if key = k then (key, value) :: rest
    else (k, v) :: insert key value rest

/-- The text of a number. -/
def Number.render : Number → String
  | natural n => toString n
  | negative n => "-" ++ toString n
  | double d => d.toText

/-- A hexadecimal digit. -/
def hexDigit (n : Nat) : Char :=
  if n < 10 then Char.ofNat ('0'.toNat + n) else Char.ofNat ('a'.toNat + (n - 10))

/-- A character of a text, escaped if it must be. -/
def escape (c : Char) : List Char :=
  if c == '"' then ['\\', '"']
  else if c == '\\' then ['\\', '\\']
  else if c.toNat == 8 then ['\\', 'b']
  else if c.toNat == 9 then ['\\', 't']
  else if c.toNat == 10 then ['\\', 'n']
  else if c.toNat == 12 then ['\\', 'f']
  else if c.toNat == 13 then ['\\', 'r']
  else if c.toNat < 32 then
    ['\\', 'u', '0', '0', hexDigit (c.toNat / 16), hexDigit (c.toNat % 16)]
  else [c]

/-- A text in quotation marks. -/
def quote (s : List Char) : List Char :=
  '"' :: (s.flatMap escape ++ ['"'])

mutual

/-- The compact text of a value. -/
def renderChars : Json → List Char
  | null => ['n', 'u', 'l', 'l']
  | bool true => ['t', 'r', 'u', 'e']
  | bool false => ['f', 'a', 'l', 's', 'e']
  | number n => n.render.toList
  | string s => quote s.toList
  | array items => '[' :: (renderItems items ++ [']'])
  | object members => '{' :: (renderMembers members ++ ['}'])

/-- The compact text of the items of an array. -/
def renderItems : List Json → List Char
  | [] => []
  | [item] => renderChars item
  | item :: rest => renderChars item ++ ',' :: renderItems rest

/-- The compact text of the members of an object. -/
def renderMembers : List (String × Json) → List Char
  | [] => []
  | [(key, value)] => quote key.toList ++ ':' :: renderChars value
  | (key, value) :: rest =>
    quote key.toList ++ ':' :: renderChars value ++ ',' :: renderMembers rest

end

/-- The compact text of a value. -/
def render (j : Json) : String := .ofList j.renderChars

end Json

end HttpAudit
