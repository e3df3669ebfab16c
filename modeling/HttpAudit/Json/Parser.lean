import HttpAudit.Json.Number

/-!
# Reading JSON texts

The strict format: one value with blanks around it, in which arrays and objects are nested less
than 128 deep. Of members with the same key the last one counts.

## Main definitions

* `HttpAudit.Json.readString` — reads a text.
* `HttpAudit.Json.readValue` — reads a value.
* `HttpAudit.Json.parse?` — the value that a text denotes.
-/

namespace HttpAudit.Json

/-- The text without blanks at its start. -/
def skipBlanks : List Char → List Char
  | [] => []
  | c :: rest =>
    if c == ' ' || c == '\n' || c == '\t' || c == '\r' then skipBlanks rest else c :: rest

/-- The value of a hexadecimal digit. -/
def hexValue? (c : Char) : Option Nat :=
  if '0' ≤ c && c ≤ '9' then some (c.toNat - '0'.toNat)
  else if 'a' ≤ c && c ≤ 'f' then some (c.toNat - 'a'.toNat + 10)
  else if 'A' ≤ c && c ≤ 'F' then some (c.toNat - 'A'.toNat + 10)
  else none

/-- The value of four hexadecimal digits. -/
def hexUnit? (a b c d : Char) : Option Nat := do
  some (((← hexValue? a) * 16 + (← hexValue? b)) * 256 +
    ((← hexValue? c) * 16 + (← hexValue? d)))

/-- Whether a code unit is the first one of a pair. -/
def isHighSurrogate (n : Nat) : Bool := 0xD800 ≤ n && n < 0xDC00

/-- Whether a code unit is the second one of a pair. -/
def isLowSurrogate (n : Nat) : Bool := 0xDC00 ≤ n && n < 0xE000

/-- The character of a pair of code units. -/
def ofSurrogates (high low : Nat) : Char :=
  Char.ofNat ((high - 0xD800) * 1024 + (low - 0xDC00) + 0x10000)

/-- The character that an escape of one letter stands for. -/
def escaped? : Char → Option Char
  | '"' => some '"'
  | '\\' => some '\\'
  | '/' => some '/'
  | 'b' => some (Char.ofNat 8)
  | 'f' => some (Char.ofNat 12)
  | 'n' => some '\n'
  | 'r' => some '\r'
  | 't' => some '\t'
  | _ => none

/-- Reads a text, from behind its opening quotation mark. -/
def readString : List Char → Option (List Char × List Char)
  | [] => none
  | '"' :: rest => some ([], rest)
  | '\\' :: 'u' :: a :: b :: c :: d :: '\\' :: 'u' :: e :: f :: g :: h :: rest =>
    match hexUnit? a b c d with
    | none => none
    | some n =>
      if isLowSurrogate n then none
      else if isHighSurrogate n then
        match hexUnit? e f g h with
        | none => none
        | some m =>
          if isLowSurrogate m then prepend (ofSurrogates n m) (readString rest) else none
      else prepend (Char.ofNat n) (readString ('\\' :: 'u' :: e :: f :: g :: h :: rest))
  | '\\' :: 'u' :: a :: b :: c :: d :: rest =>
    match hexUnit? a b c d with
    | none => none
    | some n =>
      if isLowSurrogate n || isHighSurrogate n then none
      else prepend (Char.ofNat n) (readString rest)
  | '\\' :: c :: rest =>
    match escaped? c with
    | some c => prepend c (readString rest)
    | none => none
  | c :: rest =>
    if c == '\\' || c.toNat < 32 then none else prepend c (readString rest)
where
  /-- The text with another character in front. -/
  prepend (c : Char) (r : Option (List Char × List Char)) : Option (List Char × List Char) :=
    r.map fun (text, rest) => (c :: text, rest)

/-- Reads the rest of a word. -/
def readWord (word : List Char) (j : Json) (s : List Char) : Option (Json × List Char) :=
  if word.isPrefixOf s then some (j, s.drop word.length) else none

/-- The greatest depth of nesting. -/
def maxDepth : Nat := 127

mutual

/-- Reads a value of at most the given depth. The `fuel` is at least twice the length of the
text. -/
def readValue : (fuel depth : Nat) → List Char → Option (Json × List Char)
  | 0, _, _ => none
  | fuel + 1, depth, s =>
    match skipBlanks s with
    | [] => none
    | '"' :: rest => (readString rest).map fun (text, rest) => (.string (.ofList text), rest)
    | 'n' :: rest => readWord ['u', 'l', 'l'] .null rest
    | 't' :: rest => readWord ['r', 'u', 'e'] (.bool true) rest
    | 'f' :: rest => readWord ['a', 'l', 's', 'e'] (.bool false) rest
    | '[' :: rest =>
      match depth with
      | 0 => none
      | depth + 1 =>
        match skipBlanks rest with
        | ']' :: rest => some (.array [], rest)
        | rest => (readItems fuel depth rest).map fun (items, rest) => (.array items, rest)
    | '{' :: rest =>
      match depth with
      | 0 => none
      | depth + 1 =>
        match skipBlanks rest with
        | '}' :: rest => some (.object [], rest)
        | rest => (readMembers fuel depth [] rest).map fun (ms, rest) => (.object ms, rest)
    | s => (readNumber s).map fun (n, rest) => (.number n, rest)

/-- Reads the items of an array and its closing bracket. -/
def readItems : (fuel depth : Nat) → List Char → Option (List Json × List Char)
  | 0, _, _ => none
  | fuel + 1, depth, s =>
    match readValue fuel depth s with
    | none => none
    | some (item, rest) =>
      match skipBlanks rest with
      | ']' :: rest => some ([item], rest)
      | ',' :: rest =>
        (readItems fuel depth rest).map fun (items, rest) => (item :: items, rest)
      | _ => none

/-- Reads the members of an object, which are added to those read so far, and its closing
brace. -/
def readMembers : (fuel depth : Nat) → List (String × Json) → List Char →
    Option (List (String × Json) × List Char)
  | 0, _, _, _ => none
  | fuel + 1, depth, members, s =>
    match skipBlanks s with
    | '"' :: rest =>
      match readString rest with
      | none => none
      | some (key, rest) =>
        match skipBlanks rest with
        | ':' :: rest =>
          match readValue fuel depth rest with
          | none => none
          | some (value, rest) =>
            let members := insert (.ofList key) value members
            match skipBlanks rest with
            | '}' :: rest => some (members, rest)
            | ',' :: rest => readMembers fuel depth members rest
            | _ => none
        | _ => none
    | _ => none

end

/-- The value that a text denotes, with nothing but blanks around it. -/
def parse? (s : List Char) : Option Json :=
  match readValue (2 * s.length + 1) maxDepth s with
  | some (j, rest) => if (skipBlanks rest).isEmpty then some j else none
  | none => none

end HttpAudit.Json
