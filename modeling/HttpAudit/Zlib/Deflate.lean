import HttpAudit.Zlib.Adler32
import HttpAudit.Zlib.Huffman
import HttpAudit.Zlib.Token

/-!
# Compression

Data is compressed into one block with the fixed Huffman codes, between a header and a checksum.

## Main definitions

* `HttpAudit.Zlib.deflate` — the bits of a compressed block.
* `HttpAudit.Zlib.compress` — the compressed data, with header and checksum.
-/

namespace HttpAudit.Zlib

/-- The lengths of the fixed code words for bytes and for lengths of copies. -/
def fixedLengths : List Nat :=
  List.replicate 144 8 ++ List.replicate 112 9 ++ List.replicate 24 7 ++ List.replicate 8 8

/-- The lengths of the fixed code words for distances. -/
def fixedDistances : List Nat := List.replicate 30 5

/-- The symbol at the end of a block. -/
def endOfBlock : Nat := 256

/-- The least length for each symbol from 257 on, with the number of extra bits. -/
def lengthTable : List (Nat × Nat) :=
  [(3, 0), (4, 0), (5, 0), (6, 0), (7, 0), (8, 0), (9, 0), (10, 0), (11, 1), (13, 1), (15, 1),
   (17, 1), (19, 2), (23, 2), (27, 2), (31, 2), (35, 3), (43, 3), (51, 3), (59, 3), (67, 4),
   (83, 4), (99, 4), (115, 4), (131, 5), (163, 5), (195, 5), (227, 5), (258, 0)]

/-- The least distance for each symbol, with the number of extra bits. -/
def distanceTable : List (Nat × Nat) :=
  [(1, 0), (2, 0), (3, 0), (4, 0), (5, 1), (7, 1), (9, 2), (13, 2), (17, 3), (25, 3), (33, 4),
   (49, 4), (65, 5), (97, 5), (129, 6), (193, 6), (257, 7), (385, 7), (513, 8), (769, 8),
   (1025, 9), (1537, 9), (2049, 10), (3073, 10), (4097, 11), (6145, 11), (8193, 12), (12289, 12),
   (16385, 13), (24577, 13)]

/-- The last entry of a table that does not lie above `n`, with its index. -/
def tableEntry (table : List (Nat × Nat)) (n : Nat) : Nat × Nat × Nat :=
  match (table.zipIdx.filter fun entry => entry.1.1 ≤ n).getLast? with
  | some ((base, extra), i) => (i, base, extra)
  | none => (0, 0, 0)

/-- The code word of a symbol. -/
def codeWord (words : List (Nat × List Bool)) (symbol : Nat) : List Bool :=
  (words.lookup symbol).getD []

/-- The fixed code words for bytes and lengths. -/
def fixedWords : List (Nat × List Bool) := codeWords fixedLengths

/-- The fixed code words for distances. -/
def fixedDistanceWords : List (Nat × List Bool) := codeWords fixedDistances

/-- The bits of a token. -/
def tokenBits : Token → List Bool
  | .literal b => codeWord fixedWords b.toNat
  | .copy length distance =>
    let (i, base, extra) := tableEntry lengthTable length
    let (j, start, more) := tableEntry distanceTable distance
    codeWord fixedWords (257 + i) ++ numberBits extra (length - base) ++
      codeWord fixedDistanceWords j ++ numberBits more (distance - start)

/-- The bits of data as one compressed block. -/
def deflate (data : List UInt8) : List Bool :=
  [true, true, false] ++ (tokens data).flatMap tokenBits ++ codeWord fixedWords endOfBlock

/-- The header of compressed data. -/
def header : List UInt8 := [0x78, 0x9C]

/-- The compressed data. -/
def compress (data : List UInt8) : List UInt8 :=
  header ++ pack (deflate data) ++ adler32 data

end HttpAudit.Zlib
