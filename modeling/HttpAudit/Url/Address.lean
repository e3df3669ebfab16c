/-!
# Addresses in place of names

A host may be given by an address: four numbers below 256, of which the last ones may be joined,
or eight numbers of sixteen bits in brackets, of which zeros may be left out.

## Main definitions

* `HttpAudit.Url.endsInNumber` — whether a host must be an address of the first kind.
* `HttpAudit.Url.isAddress4` — whether it is one.
* `HttpAudit.Url.isAddress6` — whether a text is an address of the second kind.
-/

namespace HttpAudit.Url

/-- The value of a digit up to `f`. -/
def hexDigit? (c : Char) : Option Nat :=
  if '0' ≤ c && c ≤ '9' then some (c.toNat - '0'.toNat)
  else if 'a' ≤ c && c ≤ 'f' then some (c.toNat - 'a'.toNat + 10)
  else if 'A' ≤ c && c ≤ 'F' then some (c.toNat - 'A'.toNat + 10)
  else none

/-- The number with the given digits in a base up to sixteen. -/
def number? (base : Nat) (digits : List Char) : Option Nat :=
  digits.foldlM (fun n c =>
    match hexDigit? c with
    | some d => if d < base then some (base * n + d) else none
    | none => none) 0

/-- The number that a part of an address denotes: hexadecimal behind `0x`, octal behind `0`, and
otherwise decimal. -/
def part? : List Char → Option Nat
  | [] => none
  | '0' :: 'x' :: rest | '0' :: 'X' :: rest => number? 16 rest
  | '0' :: c :: rest => number? 8 (c :: rest)
  | s => number? 10 s

/-- The parts of a text between its dots. -/
def dotParts : List Char → List (List Char)
  | [] => [[]]
  | c :: rest =>
    if c == '.' then [] :: dotParts rest
    else
      match dotParts rest with
      | [] => [[c]]
      | part :: more => (c :: part) :: more

/-- The parts of a text between its dots, of which an empty last one is left out. -/
def addressParts (s : List Char) : List (List Char) :=
  let parts := dotParts s
  if parts.getLast? == some [] then parts.dropLast else parts

/-- Whether the last part of a host is a number. -/
def endsInNumber (s : List Char) : Bool :=
  match (addressParts s).getLast? with
  | some last => (!last.isEmpty && last.all Char.isDigit) || (part? last).isSome
  | none => false

/-- Whether a host is an address of four numbers, the last of which may stand for several. -/
def isAddress4 (s : List Char) : Bool :=
  let parts := addressParts s
  match parts.mapM part? with
  | none => false
  | some numbers =>
    parts.length ≤ 4 && numbers.dropLast.all (· < 256) &&
      numbers.getLastD 0 < Nat.pow 256 (5 - numbers.length)

/-- Whether a text is a decimal number below 256 without needless zeros. -/
def isOctet (s : List Char) : Bool :=
  match s with
  | [] => false
  | ['0'] => true
  | '0' :: _ => false
  | s => match number? 10 s with
    | some n => n < 256
    | none => false

/-- Whether a text is made of four decimal numbers. -/
def isDotted (s : List Char) : Bool :=
  let parts := dotParts s
  parts.length == 4 && parts.all isOctet

/-- The parts of a text between its colons. -/
def colonParts : List Char → List (List Char)
  | [] => [[]]
  | c :: rest =>
    if c == ':' then [] :: colonParts rest
    else
      match colonParts rest with
      | [] => [[c]]
      | part :: more => (c :: part) :: more

/-- Whether a text has one to four hexadecimal digits. -/
def isPiece (s : List Char) : Bool :=
  1 ≤ s.length && s.length ≤ 4 && s.all fun c => (hexDigit? c).isSome

/-- The number of pieces of sixteen bits that parts of an address stand for; the last one may
stand for two, if `atEnd`. -/
def pieces? (atEnd : Bool) : List (List Char) → Option Nat
  | [] => some 0
  | [last] =>
    if isPiece last then some 1 else if atEnd && isDotted last then some 2 else none
  | part :: rest => if isPiece part then (pieces? atEnd rest).map (· + 1) else none

/-- The text before the first pair of colons, and the text behind it. -/
def splitColons : List Char → Option (List Char × List Char)
  | ':' :: ':' :: rest => some ([], rest)
  | c :: rest => (splitColons rest).map fun (before, after) => (c :: before, after)
  | [] => none

/-- The parts of a text that may be empty. -/
def partsOf (s : List Char) : List (List Char) :=
  if s.isEmpty then [] else colonParts s

/-- Whether a text is an address of eight pieces. A pair of colons stands for one piece or more;
there is one such pair at most. -/
def isAddress6 (s : List Char) : Bool :=
  match splitColons s with
  | none => pieces? true (colonParts s) == some 8
  | some (before, after) =>
    match pieces? false (partsOf before), pieces? true (partsOf after) with
    | some m, some n => m + n < 8
    | _, _ => false

end HttpAudit.Url
