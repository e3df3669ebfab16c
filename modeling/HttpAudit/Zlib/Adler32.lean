/-!
# Adler-32

The checksum at the end of compressed data: the sum of the bytes, and the sum of the intermediate
sums.

## Main definitions

* `HttpAudit.Zlib.adler32` — the checksum of bytes.
-/

namespace HttpAudit.Zlib

/-- The modulus of the sums. -/
def adlerModulus : Nat := 65521

/-- Both sums after another byte. -/
def adlerStep (sums : Nat × Nat) (b : UInt8) : Nat × Nat :=
  let a := (sums.1 + b.toNat) % adlerModulus
  (a, (sums.2 + a) % adlerModulus)

/-- The checksum of bytes, four bytes with the highest first. -/
def adler32 (bytes : List UInt8) : List UInt8 :=
  let (a, b) := bytes.foldl adlerStep (1, 0)
  [UInt8.ofNat (b / 256), UInt8.ofNat (b % 256), UInt8.ofNat (a / 256), UInt8.ofNat (a % 256)]

end HttpAudit.Zlib
