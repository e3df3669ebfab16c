import HttpAudit.Json.Parser

/-!
# Skipping JSON values

A value that nobody asks for is skipped. Its text must be one of the format, but nothing is made of
it: its numbers may be of any size, the escapes in its texts may denote any code units, and its
arrays and objects may be nested to any depth.

## Main definitions

* `HttpAudit.Json.skipText` — skips a text.
* `HttpAudit.Json.skipNumber` — skips a number.
* `HttpAudit.Json.skipValue` — skips a value.
-/

namespace HttpAudit.Json

/-- Skips a text, from behind its opening quotation mark. -/
def skipText : List Char → Option (List Char)
  | [] => none
  | '"' :: rest => some rest
  | '\\' :: 'u' :: a :: b :: c :: d :: rest =>
    if (hexUnit? a b c d).isSome then skipText rest else none
  | '\\' :: c :: rest => if (escaped? c).isSome then skipText rest else none
  | c :: rest => if c == '\\' || c.toNat < 32 then none else skipText rest

/-- Skips digits, of which there must be one at least. -/
def skipDigits : List Char → Option (List Char)
  | [] => none
  | c :: rest => if c.isDigit then some (rest.dropWhile Char.isDigit) else none

/-- The text without the sign with which it begins, if it is one of those given. -/
def skipSign (signs : List Char) : List Char → List Char
  | [] => []
  | c :: rest => if signs.contains c then rest else c :: rest

/-- Skips the exponent of a number, if there is one. -/
def skipExponent : List Char → Option (List Char)
  | [] => some []
  | c :: rest =>
    if c == 'e' || c == 'E' then skipDigits (skipSign ['+', '-'] rest) else some (c :: rest)

/-- Skips the fraction of a number, if there is one. -/
def skipFraction : List Char → Option (List Char)
  | '.' :: rest => skipDigits rest
  | rest => some rest

/-- Skips the integral digits of a number: a zero, behind which there is no other digit, or digits
of which the first one is no zero. -/
def skipInteger : List Char → Option (List Char)
  | '0' :: rest => if (rest.head?.any Char.isDigit) then none else some rest
  | rest => skipDigits rest

/-- Skips a number. -/
def skipNumber (s : List Char) : Option (List Char) := do
  let s ← skipInteger (skipSign ['-'] s)
  let s ← skipFraction s
  skipExponent s

/-- Skips the rest of a word. -/
def skipWord (word s : List Char) : Option (List Char) :=
  if word.isPrefixOf s then some (s.drop word.length) else none

mutual

/-- Skips a value. The `fuel` is at least twice the length of the text. -/
def skipValue : (fuel : Nat) → List Char → Option (List Char)
  | 0, _ => none
  | fuel + 1, s =>
    match skipBlanks s with
    | [] => none
    | '"' :: rest => skipText rest
    | 'n' :: rest => skipWord ['u', 'l', 'l'] rest
    | 't' :: rest => skipWord ['r', 'u', 'e'] rest
    | 'f' :: rest => skipWord ['a', 'l', 's', 'e'] rest
    | '[' :: rest =>
      match skipBlanks rest with
      | ']' :: rest => some rest
      | _ => skipItems fuel rest
    | '{' :: rest =>
      match skipBlanks rest with
      | '}' :: rest => some rest
      | _ => skipMembers fuel rest
    | s => skipNumber s

/-- Skips the items of an array and its closing bracket. -/
def skipItems : (fuel : Nat) → List Char → Option (List Char)
  | 0, _ => none
  | fuel + 1, s => do
    match skipBlanks (← skipValue fuel s) with
    | ']' :: rest => some rest
    | ',' :: rest => skipItems fuel rest
    | _ => none

/-- Skips the members of an object and its closing brace. -/
def skipMembers : (fuel : Nat) → List Char → Option (List Char)
  | 0, _ => none
  | fuel + 1, s => do
    let '"' :: s := skipBlanks s | none
    let ':' :: s := skipBlanks (← skipText s) | none
    match skipBlanks (← skipValue fuel s) with
    | '}' :: rest => some rest
    | ',' :: rest => skipMembers fuel rest
    | _ => none

end

end HttpAudit.Json
