import HttpAudit.Json.Value

/-!
# Reading JSON numbers

The digits of a number are gathered in sixty-four bits, and the power of ten is applied in double
precision at the end. Digits that no longer fit count by their place alone, or not at all behind
the point; so the result may differ from the nearest number in its last place.

## Main definitions

* `HttpAudit.Json.readNumber` — reads a number.
-/

namespace HttpAudit.Json

/-- One more than the greatest integer of sixty-four bits. -/
def wordLimit : Nat := Nat.pow 2 64

/-- The greatest exponent that is read; any larger one has the same effect. -/
def exponentLimit : Nat := Nat.pow 2 31

/-- The value of a decimal digit. -/
def digit? (c : Char) : Option Nat :=
  if c.isDigit then some (c.toNat - '0'.toNat) else none

/-- The number `significand` times the given power of ten, or `none` if it is too large. A power
of ten beyond 308 is applied in steps, `fuel` of them at most. -/
def scaleTen? : (fuel : Nat) → Double → Int → Option Double
  | 0, f, _ => some f
  | fuel + 1, f, e =>
    if e.natAbs ≤ 308 then
      let p := Double.powerOfTen e.natAbs
      if 0 ≤ e then f.mul? p else some (f.div p)
    else if f.isZero then some f
    else if 0 ≤ e then none
    else scaleTen? fuel (f.div (Double.powerOfTen 308)) (e + 308)

/-- The number with the given sign, digits and power of ten. -/
def assemble? (negative : Bool) (significand : Nat) (e : Int) : Option Number :=
  (scaleTen? 5 (Double.ofRatio significand 1) e).map fun d => .double { d with negative }

/-- Reads the digits of an exponent after those of the given value. -/
def readExponentDigits (n : Nat) : List Char → Nat × List Char
  | [] => (n, [])
  | c :: rest =>
    match digit? c with
    | some d => readExponentDigits (min (10 * n + d) exponentLimit) rest
    | none => (n, c :: rest)

/-- Reads an exponent, from behind its letter. -/
def readExponent (negative : Bool) (significand : Nat) (e : Int) (s : List Char) :
    Option (Number × List Char) :=
  let (down, s) := match s with
    | '+' :: rest => (false, rest)
    | '-' :: rest => (true, rest)
    | s => (false, s)
  match s with
  | [] => none
  | c :: rest => do
    let d ← digit? c
    let (n, rest) := readExponentDigits d rest
    if n == exponentLimit then
      if significand != 0 && !down then none
      else some (.double { Double.zero with negative }, rest)
    else
      let n ← assemble? negative significand (if down then e - n else e + n)
      some (n, rest)

/-- Reads what may follow the digits of a number that is not an integer. -/
def readTail (negative : Bool) (significand : Nat) (e : Int) (s : List Char) :
    Option (Number × List Char) :=
  match s with
  | 'e' :: rest | 'E' :: rest => readExponent negative significand e rest
  | s => (assemble? negative significand e).map (·, s)

/-- Reads the digits behind the point, after those gathered; the first that does not fit and all
behind it are left out. -/
def readFraction (significand : Nat) (e : Int) : List Char → Nat × Int × List Char
  | [] => (significand, e, [])
  | c :: rest =>
    match digit? c with
    | some d =>
      if 10 * significand + d < wordLimit then readFraction (10 * significand + d) (e - 1) rest
      else (significand, e, rest.dropWhile Char.isDigit)
    | none => (significand, e, c :: rest)

/-- Reads the integral digits of a number after those gathered, and counts those that do not
fit. -/
def readDigits (significand : Nat) : List Char → Nat × Nat × List Char
  | [] => (significand, 0, [])
  | c :: rest =>
    match digit? c with
    | some d =>
      if 10 * significand + d < wordLimit then readDigits (10 * significand + d) rest
      else
        (significand, 1 + (rest.takeWhile Char.isDigit).length, rest.dropWhile Char.isDigit)
    | none => (significand, 0, c :: rest)

/-- The number that an integer of sixty-four bits is; a negative one that does not fit, and minus
zero, are double precision numbers. -/
def ofInteger (negative : Bool) (n : Nat) : Number :=
  if !negative then .natural n
  else if 1 ≤ n && n ≤ Nat.pow 2 63 then .negative n
  else .double (Double.ofRatio n 1).neg

/-- Reads a number without its sign. -/
def readUnsigned (negative : Bool) (s : List Char) : Option (Number × List Char) := do
  let c :: rest := s | none
  let d ← digit? c
  let (significand, dropped, rest) := if d == 0 then (0, 0, rest) else readDigits d rest
  match rest with
  | '.' :: c :: rest => do
    guard c.isDigit
    let (significand, e, rest) := readFraction significand dropped (c :: rest)
    readTail negative significand e rest
  | '.' :: [] => none
  | c :: _ =>
    if c == 'e' || c == 'E' || dropped != 0 then readTail negative significand dropped rest
    else if d == 0 && c.isDigit then none
    else some (ofInteger negative significand, rest)
  | [] =>
    if dropped != 0 then readTail negative significand dropped rest
    else some (ofInteger negative significand, rest)

/-- Reads a number. -/
def readNumber : List Char → Option (Number × List Char)
  | '-' :: rest => readUnsigned true rest
  | s => readUnsigned false s

end HttpAudit.Json
