/-!
# Bits and bytes

Compressed data is a sequence of bits, packed into bytes from their lowest bit on.

## Main definitions

* `HttpAudit.Zlib.unpack` — the bits of bytes.
* `HttpAudit.Zlib.pack` — the bytes of bits, with zeros added at the end.
* `HttpAudit.Zlib.numberBits`, `HttpAudit.Zlib.takeNumber` — numbers, lowest bit first.
-/

namespace HttpAudit.Zlib

/-- The `width` lowest bits of a number, lowest first. -/
def numberBits : (width n : Nat) → List Bool
  | 0, _ => []
  | width + 1, n => (n % 2 == 1) :: numberBits width (n / 2)

/-- The number with the given bits, lowest first. -/
def ofBits : List Bool → Nat
  | [] => 0
  | b :: rest => (if b then 1 else 0) + 2 * ofBits rest

/-- Takes a number of the given width off the bits. -/
def takeNumber (width : Nat) (bits : List Bool) : Option (Nat × List Bool) :=
  if width ≤ (bits.take width).length then some (ofBits (bits.take width), bits.drop width)
  else none

/-- The bits of bytes. -/
def unpack (bytes : List UInt8) : List Bool :=
  bytes.flatMap fun b => numberBits 8 b.toNat

/-- The bytes of bits. The last byte is filled up with zeros. -/
def pack : List Bool → List UInt8
  | a :: b :: c :: d :: e :: f :: g :: h :: rest =>
    UInt8.ofNat (ofBits [a, b, c, d, e, f, g, h]) :: pack rest
  | [] => []
  | bits => [UInt8.ofNat (ofBits bits)]

/-- The bits from the start of the next byte on. -/
def align (bits : List Bool) : List Bool :=
  bits.drop (bits.length % 8)

end HttpAudit.Zlib
