import HttpAudit.Json.Parser
import HttpAudit.Yaml.Gap

/-!
# Quoted scalars

Between single quotation marks a mark is written twice. Between double ones a backslash starts an
escape.

## Main definitions

* `HttpAudit.Yaml.takeQuoted` — reads a quoted scalar.
-/

namespace HttpAudit.Yaml

/-- What an escape with a single letter stands for. -/
def escape? : Char → Option Nat
  | '0' => some 0x00
  | 'a' => some 0x07
  | 'b' => some 0x08
  | 't' => some 0x09
  | '\t' => some 0x09
  | 'n' => some 0x0A
  | 'v' => some 0x0B
  | 'f' => some 0x0C
  | 'r' => some 0x0D
  | 'e' => some 0x1B
  | ' ' => some 0x20
  | '"' => some 0x22
  | '/' => some 0x2F
  | '\\' => some 0x5C
  | 'N' => some 0x85
  | '_' => some 0xA0
  | 'L' => some 0x2028
  | 'P' => some 0x2029
  | _ => none

/-- The number of digits in an escape that names a character by its number. -/
def escapeLength? : Char → Option Nat
  | 'x' => some 2
  | 'u' => some 4
  | 'U' => some 8
  | _ => none

/-- The number that hexadecimal digits denote. -/
def hexNumber? (digits : List Char) : Option Nat :=
  digits.foldlM (fun n digit => (Json.hexValue? digit).map (16 * n + ·)) 0

/-- Reads an escape behind its backslash. -/
def takeEscape (c : Cursor) : Option (Char × Cursor) := do
  let letter ← c.next?
  match escapeLength? letter with
  | none => some (Char.ofNat (← escape? letter), c.skip 1)
  | some count =>
    let digits := (c.rest.drop 1).take count
    if digits.length < count then none
    else
      let n ← hexNumber? digits
      if n.isValidChar then some (Char.ofNat n, c.skip (1 + count)) else none

/-- Reads on in a quoted scalar of which `read` has been read, last character first. The `fuel` is
at least the length of the text. -/
def takeQuotedFrom (mark : Char) : (fuel : Nat) → (read : List Char) → Cursor →
    Option (List Char × Cursor)
  | 0, _, _ => none
  | fuel + 1, read, c =>
    match c.next? with
    | none => none
    | some char =>
      if c.atDocumentMark then none
      else if isBlank char || isBreak char then
        match takeGap 0 {} c with
        | some (gap, c) => takeQuotedFrom mark fuel (gap.text.reverse ++ read) c
        | none => none
      else if char == mark then
        if mark == '\'' && (c.skip 1).startsWith mark then
          takeQuotedFrom mark fuel (mark :: read) (c.skip 2)
        else some (read.reverse, c.skip 1)
      else if char == '\\' && mark == '"' then
        if c.sees 1 isBreak false then
          match takeGap 0 { broken := true } (c.skip 1).takeBreak.2 with
          | some (gap, c) => takeQuotedFrom mark fuel (gap.text.reverse ++ read) c
          | none => none
        else
          match takeEscape (c.skip 1) with
          | some (char, c) => takeQuotedFrom mark fuel (char :: read) c
          | none => none
      else takeQuotedFrom mark fuel (char :: read) (c.skip 1)

/-- Reads the quoted scalar that starts here with a mark. -/
def takeQuoted (mark : Char) (c : Cursor) : Option (List Char × Cursor) :=
  takeQuotedFrom mark c.rest.length [] (c.skip 1)

end HttpAudit.Yaml
