/-!
# Punycode

The encoding of texts by ASCII letters, digits and hyphens that domain names use.

## Main definitions

* `HttpAudit.Url.Punycode.decode?` — the text of an encoding.
-/

namespace HttpAudit.Url.Punycode

/-- The value of a digit: letters stand for the numbers below 26, digits for the next ones. -/
def digit? (c : Char) : Option Nat :=
  if 'a' ≤ c && c ≤ 'z' then some (c.toNat - 'a'.toNat)
  else if 'A' ≤ c && c ≤ 'Z' then some (c.toNat - 'A'.toNat)
  else if '0' ≤ c && c ≤ '9' then some (c.toNat - '0'.toNat + 26)
  else none

/-- Divides `delta` until it is small, and counts the divisions; `fuel` bounds their number. -/
def reduce : (fuel delta k : Nat) → Nat × Nat
  | 0, delta, k => (delta, k)
  | fuel + 1, delta, k =>
    if 455 < delta then reduce fuel (delta / 35) (k + 36) else (delta, k)

/-- The bias for the next number, from the last one and the length of the text. -/
def adapt (delta length : Nat) (isFirst : Bool) : Nat :=
  let delta := if isFirst then delta / 700 else delta / 2
  let (delta, k) := reduce 32 (delta + delta / length) 0
  k + 36 * delta / (delta + 38)

/-- Reads a number with digits of growing weight. -/
def readNumber (bias : Nat) : (k weight value : Nat) → List Char → Option (Nat × List Char)
  | _, _, _, [] => none
  | k, weight, value, c :: rest =>
    match digit? c with
    | none => none
    | some d =>
      let value := value + d * weight
      let threshold := if k ≤ bias then 1 else min 26 (k - bias)
      if Nat.pow 2 32 ≤ value then none
      else if d < threshold then some (value, rest)
      else readNumber bias (k + 36) (weight * (36 - threshold)) value rest

/-- Inserts the encoded characters into the text found so far; `fuel` bounds their number. -/
def insertAll : (fuel code i bias : Nat) → (found : List Char) → List Char → Option (List Char)
  | _, _, _, _, found, [] => some found
  | 0, _, _, _, _, _ => none
  | fuel + 1, code, i, bias, found, s =>
    match readNumber bias 36 1 0 s with
    | none => none
    | some (delta, rest) =>
      let length := found.length + 1
      let code := code + (i + delta) / length
      let place := (i + delta) % length
      if code.isValidChar then
        insertAll fuel code (place + 1) (adapt delta length (i == 0))
          (found.take place ++ Char.ofNat code :: found.drop place) rest
      else none

/-- The part of a text before its last hyphen, and the part behind it. -/
def splitLast (s : List Char) : List Char × List Char :=
  let tail := (s.reverse.takeWhile (· != '-')).reverse
  (s.take (s.length - tail.length - 1), tail)

/-- The text of an encoding. -/
def decode? (s : List Char) : Option (List Char) :=
  let (basic, rest) := splitLast s
  insertAll (rest.length + 1) 128 0 72 basic rest

end HttpAudit.Url.Punycode
