import HttpAudit.Json.Skip

/-!
# Reading records

A record is an object of which some members are asked for by their names. Only their values are
read; those of other members are skipped, and need not even fit into what can be read. No member
that is asked for may stand twice.

## Main definitions

* `HttpAudit.Json.readFields` — reads the members of a record.
* `HttpAudit.Json.decodeText?` — the record with a given text.
-/

namespace HttpAudit.Json

/-- Reads the value of a member. If the member is asked for, it is added to those found so far,
among which it must not be; and if not, its value is skipped. -/
def readField (names : List String) (fuel depth : Nat) (found : List (String × Json))
    (key : String) (s : List Char) : Option (List (String × Json) × List Char) :=
  if names.contains key then
    if (found.lookup key).isSome then none
    else (readValue fuel depth s).map fun (value, rest) => (insert key value found, rest)
  else (skipValue fuel s).map fun rest => (found, rest)

/-- Reads the members of a record and its closing brace, and adds those with the given names to
those found so far. -/
def readFields (names : List String) : (fuel depth : Nat) → List (String × Json) → List Char →
    Option (List (String × Json) × List Char)
  | 0, _, _, _ => none
  | fuel + 1, depth, found, s => do
    let '"' :: s := skipBlanks s | none
    let (key, s) ← readString s
    let ':' :: s := skipBlanks s | none
    let (found, s) ← readField names fuel depth found (.ofList key) s
    match skipBlanks s with
    | '}' :: rest => some (found, rest)
    | ',' :: rest => readFields names fuel depth found rest
    | _ => none

/-- Reads a record from behind its opening brace. The `fuel` is at least twice the length of the
text. -/
def readRecord (names : List String) (fuel : Nat) (s : List Char) :
    Option (List (String × Json) × List Char) :=
  match skipBlanks s with
  | '}' :: rest => some ([], rest)
  | _ => readFields names fuel (maxDepth - 1) [] s

/-- What a decoder makes of a text: of an object only the members with the given names are read, and
any other value is read as a whole. -/
def decodeText? {α : Type} (names : List String) (decode : Json → Option α) (text : String) :
    Option α :=
  match skipBlanks text.toList with
  | '{' :: s => do
    let (fields, rest) ← readRecord names (2 * s.length + 1) s
    guard (skipBlanks rest).isEmpty
    decode (.object fields)
  | _ => (parse? text.toList).bind decode

end HttpAudit.Json
