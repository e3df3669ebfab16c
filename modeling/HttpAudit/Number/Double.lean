/-!
# Double precision numbers

The finite floating-point numbers with a mantissa of fifty-three bits, and the arithmetic on them
that reading decimal numbers takes.

## Main definitions

* `HttpAudit.Double` — a sign, a mantissa and an exponent.
* `HttpAudit.Double.ofRatio?` — the nearest number to a fraction.
* `HttpAudit.Double.mul?`, `HttpAudit.Double.div` — product and quotient of magnitudes.

## Design

A magnitude is in normal form: its mantissa has fifty-three bits, or the exponent is the least
one. Hence equal numbers are equal as structures.
-/

namespace HttpAudit

/-- A finite double precision number. -/
structure Double where
  /-- Whether the number has a minus sign. -/
  negative : Bool
  /-- The mantissa. -/
  mantissa : Nat
  /-- The exponent of the power of two that the mantissa is multiplied with. -/
  exponent : Int
  deriving DecidableEq, Repr

namespace Double

/-- The least exponent. -/
def minExponent : Int := -1074

/-- The greatest exponent. -/
def maxExponent : Int := 971

/-- Positive zero. -/
def zero : Double := ⟨false, 0, minExponent⟩

/-- Whether the number is a zero. -/
def isZero (d : Double) : Bool := d.mantissa == 0

/-- The number with its sign changed. -/
def neg (d : Double) : Double := { d with negative := !d.negative }

/-- A nonnegative number `num / den` times a power of two, as a fraction. -/
def scale (num den : Nat) (e : Int) : Nat × Nat :=
  if 0 ≤ e then (num * Nat.pow 2 e.toNat, den) else (num, den * Nat.pow 2 (-e).toNat)

/-- The integer nearest to `num / den`, an even one if two are. -/
def nearest (num den : Nat) : Nat :=
  let q := num / den
  let r := num % den
  if 2 * r < den then q
  else if den < 2 * r then q + 1
  else if q % 2 == 0 then q else q + 1

/-- The exponent with which a fraction has a mantissa of fifty-three bits, or the least exponent
if that is greater. -/
def exponentOf (num den : Nat) : Int :=
  let low : Int := (num.log2 : Int) - den.log2 - 53
  let (n, d) := scale num den (-low)
  max minExponent (if n / d < Nat.pow 2 53 then low else low + 1)

/-- The number nearest to the fraction `num / den`, or `none` if it is too large. -/
def ofRatio? (num den : Nat) : Option Double :=
  if num == 0 then some zero
  else
    let e := exponentOf num den
    let (n, d) := scale num den (-e)
    let m := nearest n d
    let (m, e) := if m == Nat.pow 2 53 then (Nat.pow 2 52, e + 1) else (m, e)
    if e ≤ maxExponent then some ⟨false, m, e⟩ else none

/-- The number nearest to the fraction, or zero for a fraction that is too large. -/
def ofRatio (num den : Nat) : Double :=
  (ofRatio? num den).getD zero

/-- The magnitude of a number as a fraction. -/
def ratio (d : Double) : Nat × Nat :=
  scale d.mantissa 1 d.exponent

/-- The product of the magnitudes of two numbers, or `none` if it is too large. -/
def mul? (a b : Double) : Option Double :=
  let (n, d) := a.ratio
  let (m, e) := b.ratio
  ofRatio? (n * m) (d * e)

/-- The quotient of the magnitude of a number and that of a number not less than one. -/
def div (a b : Double) : Double :=
  let (n, d) := a.ratio
  let (m, e) := b.ratio
  ofRatio (n * e) (d * m)

/-- The power of ten with exponent `n`, which is at most 308. -/
def powerOfTen (n : Nat) : Double :=
  ofRatio (Nat.pow 10 n) 1

end Double

end HttpAudit
