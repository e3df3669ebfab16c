import HttpAudit.Proofs.Zlib.RoundTrip
import Mathlib.Algebra.BigOperators.Group.List.Basic
import Mathlib.Data.List.Infix

set_option relaxedAutoImplicit false
set_option autoImplicit false

/-!
# Streams of compressed data

What the format says of compressed data, apart from how it is written: a header of two bytes, the
blocks, filled up to a byte, and a checksum of four bytes. The checksum is told by sums over the
data that are reduced at the end, while it is computed with sums that are reduced at each byte.

## Main definitions

* `HttpAudit.Zlib.checksum` — the checksum of data as a number.
* `HttpAudit.Zlib.StreamHeader`, `HttpAudit.Zlib.Blocks`, `HttpAudit.Zlib.IsStream` — what the
  format says of the header, of the blocks and of the whole.

## Main results

* `HttpAudit.Zlib.foldl_adlerStep` — the sums that are reduced at each byte.
* `HttpAudit.Zlib.isStream_compress` — compressed data is a stream for the data.
-/

namespace HttpAudit.Zlib

/-! ## The checksum -/

/-- One more than the sum of the bytes. -/
def byteSum (data : List UInt8) : Nat := 1 + (data.map UInt8.toNat).sum

/-- The sum of the sums of the bytes, up to each of the bytes. -/
def runningSum (data : List UInt8) : Nat := (data.inits.tail.map byteSum).sum

/-- The checksum of data: the sum of the sums in the upper half, that of the bytes in the lower. -/
def checksum (data : List UInt8) : Nat :=
  65536 * (runningSum data % adlerModulus) + byteSum data % adlerModulus

/-- The number that bytes stand for, the highest one first. -/
def bigEndian (bytes : List UInt8) : Nat := bytes.foldl (fun n b => 256 * n + b.toNat) 0

/-- The sum of the bytes with one more byte. -/
lemma byteSum_concat (data : List UInt8) (b : UInt8) :
    byteSum (data ++ [b]) = byteSum data + b.toNat := by
  simp [byteSum, Nat.add_assoc]

/-- The sum of the sums with one more byte. -/
lemma runningSum_concat (data : List UInt8) (b : UInt8) :
    runningSum (data ++ [b]) = runningSum data + byteSum (data ++ [b]) := by
  have hinits : (data ++ [b]).inits.tail = data.inits.tail ++ [data ++ [b]] := by
    have hne : data.inits ≠ [] := List.ne_nil_of_length_pos (by simp)
    rw [List.inits_append, List.tail_append_of_ne_nil hne]
    rfl
  rw [runningSum, hinits, List.map_append, List.sum_append, ← runningSum, List.map_singleton,
    List.sum_singleton]

/-- Sums that are reduced at each byte are the sums of the bytes reduced. -/
lemma foldl_adlerStep (data : List UInt8) :
    data.foldl adlerStep (1, 0) =
      (byteSum data % adlerModulus, runningSum data % adlerModulus) := by
  induction data using List.reverseRecOn with
  | nil => rfl
  | append_singleton data b ih =>
    have hsum : (byteSum data % adlerModulus + b.toNat) % adlerModulus =
        byteSum (data ++ [b]) % adlerModulus := by
      rw [byteSum_concat, Nat.mod_add_mod]
    rw [List.foldl_concat, ih, adlerStep, hsum, runningSum_concat, ← Nat.add_mod]

/-- The four bytes at the end of compressed data stand for its checksum. -/
lemma bigEndian_adler32 (data : List UInt8) : bigEndian (adler32 data) = checksum data := by
  have hbyte : ∀ n < 256, (UInt8.ofNat n).toNat = n := fun n h => UInt8.toNat_ofNat_of_lt' h
  have hlow : byteSum data % adlerModulus < 65521 := Nat.mod_lt _ (by decide)
  have hhigh : runningSum data % adlerModulus < 65521 := Nat.mod_lt _ (by decide)
  rw [adler32, foldl_adlerStep, checksum]
  generalize byteSum data % adlerModulus = low at hlow ⊢
  generalize runningSum data % adlerModulus = high at hhigh ⊢
  simp only [bigEndian, List.foldl_cons, List.foldl_nil]
  rw [hbyte _ (by omega), hbyte _ (by omega), hbyte _ (by omega), hbyte _ (by omega)]
  omega

/-! ## Streams -/

/-- What the format says of the two bytes of a header. -/
structure StreamHeader (method flags : UInt8) : Prop where
  /-- The method is that of compressed blocks. -/
  method_eq : method.toNat % 16 = 8
  /-- Copies reach back by no more than the greatest window. -/
  window_le : method.toNat / 16 ≤ 7
  /-- The two bytes are a multiple of 31. -/
  check_eq : bigEndian [method, flags] % 31 = 0
  /-- Nothing is given in advance. -/
  dictionary_eq : flags.toNat / 32 % 2 = 0

/-- Bytes hold compressed blocks for data, and then nothing but the zeros that fill up a byte. -/
def Blocks (bytes data : List UInt8) : Prop :=
  ∃ n < 8, inflate (unpack bytes) = some (data, List.replicate n false)

/-- Bytes are a stream for data: a header, blocks, and the checksum in four bytes. -/
def IsStream (bytes data : List UInt8) : Prop :=
  ∃ method flags blocks check, bytes = method :: flags :: (blocks ++ check) ∧
    StreamHeader method flags ∧ Blocks blocks data ∧
    check.length = 4 ∧ bigEndian check = checksum data

/-- The bits of a block, packed into bytes, are blocks for the data. -/
lemma blocks_pack_deflate (data : List UInt8) : Blocks (pack (deflate data)) data := by
  obtain ⟨n, hn, hpack⟩ := exists_unpack_pack (deflate data)
  exact ⟨n, hn, by rw [hpack, inflate_deflate]⟩

/-- **Compressed data is a stream.** What compression writes, for any data, is a header, blocks for
the data and their checksum, as the format has them. -/
theorem isStream_compress (data : List UInt8) : IsStream (compress data) data :=
  ⟨0x78, 0x9C, pack (deflate data), adler32 data, rfl, by constructor <;> decide,
    blocks_pack_deflate data, rfl, bigEndian_adler32 data⟩

end HttpAudit.Zlib
