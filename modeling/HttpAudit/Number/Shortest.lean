import HttpAudit.Number.Double

/-!
# Shortest decimal forms

The decimal number with the fewest digits among those to which a double precision number is the
nearest one, and of these the nearest to it. Where two of these are equally near, a rule for ties
decides.

## Main definitions

* `HttpAudit.Decimal` — a natural number times a power of ten.
* `HttpAudit.TieRule` — which of two equally near numbers is taken.
* `HttpAudit.Double.shortest` — the shortest decimal form of a magnitude.
* `HttpAudit.Double.toText` — a number as data formats write it.
* `HttpAudit.Double.toPlainText` — a number without an exponent.
-/

namespace HttpAudit

/-- A decimal number: `digits` times the power of ten with the given exponent. -/
structure Decimal where
  /-- The digits, as a number. -/
  digits : Nat
  /-- The exponent. -/
  exponent : Int
  deriving DecidableEq, Repr

/-- The decimal number as a fraction. -/
def Decimal.ratio (x : Decimal) : Nat × Nat :=
  if 0 ≤ x.exponent then (x.digits * Nat.pow 10 x.exponent.toNat, 1)
  else (x.digits, Nat.pow 10 (-x.exponent).toNat)

/-- Which of two numbers next to each other is taken if both are equally near. -/
inductive TieRule where
  /-- The one that is even. -/
  | even
  /-- The greater one. -/
  | up
  deriving DecidableEq, Repr

/-- Whether the lower number `n` is taken in a tie. -/
def TieRule.takesLower : TieRule → (n : Nat) → Bool
  | even, n => n % 2 == 0
  | up, _ => false

namespace Double

/-- The decimal number with exponent `e` next below the magnitude and next above it, and whether
the first of them is the one to prefer. -/
def neighbours (tie : TieRule) (d : Double) (e : Int) : Decimal × Decimal × Bool :=
  let (num, den) := d.ratio
  let (num, den) :=
    if 0 ≤ e then (num, den * Nat.pow 10 e.toNat) else (num * Nat.pow 10 (-e).toNat, den)
  let q := num / den
  let r := 2 * (num % den)
  (⟨q, e⟩, ⟨q + 1, e⟩, r < den || (r == den && tie.takesLower q))

/-- Whether the number is the nearest one to a decimal number. -/
def isNearestTo (d : Double) (x : Decimal) : Bool :=
  let (num, den) := x.ratio
  match ofRatio? num den with
  | some r => r.mantissa == d.mantissa && r.exponent == d.exponent
  | none => false

/-- The best decimal form with exponent `e`, if the number is the nearest one to any such form. -/
def formWith? (tie : TieRule) (d : Double) (e : Int) : Option Decimal :=
  let (below, above, lower) := d.neighbours tie e
  let (near, far) := if lower then (below, above) else (above, below)
  if d.isNearestTo near then some near
  else if d.isNearestTo far then some far
  else none

/-- The first decimal form with an exponent from `e` downwards, `n` of them at most. -/
def formFrom (tie : TieRule) (d : Double) : (n : Nat) → (e : Int) → Decimal
  | 0, e => (d.neighbours tie e).1
  | n + 1, e => (d.formWith? tie e).getD (formFrom tie d n (e - 1))

/-- The number without zeros at its end, with the number of zeros left out; `fuel` bounds their
number. -/
def stripZeros : (fuel : Nat) → (n : Nat) → Nat × Nat
  | 0, n => (n, 0)
  | fuel + 1, n =>
    if n != 0 && n % 10 == 0 then
      let (m, k) := stripZeros fuel (n / 10)
      (m, k + 1)
    else (n, 0)

/-- The number of decimal digits. -/
def digitCount (n : Nat) : Nat := (toString n).length

/-- The exponent of the power of ten next above the magnitude. -/
def decimalExponent (d : Double) : Int :=
  let (num, den) := d.ratio
  if den ≤ num then digitCount (num / den)
  else 1 - (digitCount ((den - 1) / num) : Int)

/-- The shortest decimal form of the magnitude. -/
def shortest (tie : TieRule) (d : Double) : Decimal :=
  if d.isZero then ⟨0, 0⟩
  else
    let x := d.formFrom tie 17 (d.decimalExponent - 1)
    let (digits, zeros) := stripZeros 20 x.digits
    ⟨digits, x.exponent + zeros⟩

/-- The text `s` with a point before its last `n` characters. -/
def withPoint (s : String) (n : Nat) : String :=
  let whole := s.length - n
  String.ofList (s.toList.take whole) ++ "." ++ String.ofList (s.toList.drop whole)

/-- A row of zeros. -/
def zeros (n : Nat) : String := String.ofList (List.replicate n '0')

/-- The minus sign of a negative number. -/
def sign (d : Double) : String := if d.negative then "-" else ""

/-- The number as data formats write it: always with a point or an exponent, and with an exponent
if the point would be far from the digits. Ties go to the even number. -/
def toText (d : Double) : String :=
  if d.isZero then d.sign ++ "0.0"
  else
    let x := d.shortest .even
    let digits := toString x.digits
    let point := (digits.length : Int) + x.exponent
    d.sign ++
      if 0 ≤ x.exponent && point ≤ 16 then digits ++ zeros x.exponent.toNat ++ ".0"
      else if 0 < point && point ≤ 16 then withPoint digits (-x.exponent).toNat
      else if -5 < point && point ≤ 0 then "0." ++ zeros (-point).toNat ++ digits
      else
        let mantissa := if digits.length == 1 then digits else withPoint digits (digits.length - 1)
        mantissa ++ (if 0 < point then "e+" else "e") ++ toString (point - 1)

/-- The number with all its digits and without an exponent. Ties go up. -/
def toPlainText (d : Double) : String :=
  let x := d.shortest .up
  let digits := toString x.digits
  let point := (digits.length : Int) + x.exponent
  d.sign ++
    if 0 ≤ x.exponent then digits ++ zeros x.exponent.toNat
    else if 0 < point then withPoint digits (-x.exponent).toNat
    else "0." ++ zeros (-point).toNat ++ digits

end Double

end HttpAudit
