import HttpAudit.Zlib.Deflate

/-!
# Decompression

Data may have been compressed into any number of blocks: stored as it is, with the fixed Huffman
codes, or with codes of the block's own.

## Main definitions

* `HttpAudit.Zlib.inflate` — the data of compressed blocks.
* `HttpAudit.Zlib.decompress` — the data between header and checksum, which must be right.
-/

namespace HttpAudit.Zlib

/-- The codes of a block, for bytes and lengths, and for distances. -/
structure BlockCodes where
  /-- The code for bytes and for lengths of copies. -/
  lengths : CodeTree
  /-- The code for distances. -/
  distances : CodeTree

/-- The fixed codes. -/
def BlockCodes.fixed : BlockCodes :=
  ⟨.ofLengths fixedLengths, .ofLengths fixedDistances⟩

/-- Takes off the number that an entry of a table stands for. -/
def takeEntry (table : List (Nat × Nat)) (i : Nat) (bits : List Bool) :
    Option (Nat × List Bool) := do
  let (base, extra) ← table[i]?
  let (n, bits) ← takeNumber extra bits
  some (base + n, bits)

/-- Takes a token off the bits, or the end of the block. -/
def takeToken (codes : BlockCodes) (bits : List Bool) : Option (Option Token × List Bool) := do
  let (symbol, bits) ← codes.lengths.decode bits
  if symbol < endOfBlock then some (some (.literal (UInt8.ofNat symbol)), bits)
  else if symbol == endOfBlock then some (none, bits)
  else
    let (length, bits) ← takeEntry lengthTable (symbol - 257) bits
    let (i, bits) ← codes.distances.decode bits
    let (distance, bits) ← takeEntry distanceTable i bits
    some (some (.copy length distance), bits)

/-- Expands the tokens of a block behind what was seen; `fuel` bounds their number. -/
def inflateTokens (codes : BlockCodes) : (fuel : Nat) → (seen : List UInt8) → List Bool →
    Option (List UInt8 × List Bool)
  | 0, _, _ => none
  | fuel + 1, seen, bits =>
    match takeToken codes bits with
    | none => none
    | some (none, bits) => some (seen, bits)
    | some (some t, bits) =>
      match expandToken seen t with
      | some seen => inflateTokens codes fuel seen bits
      | none => none

/-- Takes bytes off the bits and puts them in front of what was seen. -/
def takeBytes : (count : Nat) → (seen : List UInt8) → List Bool → Option (List UInt8 × List Bool)
  | 0, seen, bits => some (seen, bits)
  | count + 1, seen, bits =>
    match takeNumber 8 bits with
    | some (n, bits) => takeBytes count (UInt8.ofNat n :: seen) bits
    | none => none

/-- Takes a stored block off the bits. -/
def inflateStored (seen : List UInt8) (bits : List Bool) : Option (List UInt8 × List Bool) := do
  let (count, bits) ← takeNumber 16 (align bits)
  let (check, bits) ← takeNumber 16 bits
  guard (count + check == 65535)
  takeBytes count seen bits

/-- The order in which the lengths of the code for lengths are given. -/
def lengthOrder : List Nat :=
  [16, 17, 18, 0, 8, 7, 9, 6, 10, 5, 11, 4, 12, 3, 13, 2, 14, 1, 15]

/-- Takes numbers of three bits off the bits. -/
def takeTriples : (count : Nat) → List Bool → Option (List Nat × List Bool)
  | 0, bits => some ([], bits)
  | count + 1, bits => do
    let (n, bits) ← takeNumber 3 bits
    let (more, bits) ← takeTriples count bits
    some (n :: more, bits)

/-- Takes lengths of code words off the bits, in front of those found, last to first, until there
are `total`; `fuel` bounds the number of symbols. -/
def takeLengths (code : CodeTree) (total : Nat) : (fuel : Nat) → (found : List Nat) → List Bool →
    Option (List Nat × List Bool)
  | 0, _, _ => none
  | fuel + 1, found, bits =>
    if total ≤ found.length then
      if found.length == total then some (found.reverse, bits) else none
    else do
      let (symbol, bits) ← code.decode bits
      if symbol < 16 then takeLengths code total fuel (symbol :: found) bits
      else if symbol == 16 then
        let last ← found.head?
        let (n, bits) ← takeNumber 2 bits
        takeLengths code total fuel (List.replicate (3 + n) last ++ found) bits
      else if symbol == 17 then
        let (n, bits) ← takeNumber 3 bits
        takeLengths code total fuel (List.replicate (3 + n) 0 ++ found) bits
      else
        let (n, bits) ← takeNumber 7 bits
        takeLengths code total fuel (List.replicate (11 + n) 0 ++ found) bits

/-- Takes the codes of a block off the bits. -/
def takeCodes (bits : List Bool) : Option (BlockCodes × List Bool) := do
  let (lengthCount, bits) ← takeNumber 5 bits
  let (distanceCount, bits) ← takeNumber 5 bits
  let (orderCount, bits) ← takeNumber 4 bits
  let (triples, bits) ← takeTriples (orderCount + 4) bits
  let given := lengthOrder.zip triples
  let code := CodeTree.ofLengths ((List.range 19).map fun i => (given.lookup i).getD 0)
  let total := lengthCount + 257 + (distanceCount + 1)
  let (lengths, bits) ← takeLengths code total (total + 1) [] bits
  some
    (⟨.ofLengths (lengths.take (lengthCount + 257)), .ofLengths (lengths.drop (lengthCount + 257))⟩,
     bits)

/-- Expands blocks behind what was seen, to the last one; `fuel` bounds their number. -/
def inflateBlocks : (fuel : Nat) → (seen : List UInt8) → List Bool →
    Option (List UInt8 × List Bool)
  | 0, _, _ => none
  | fuel + 1, seen, bits => do
    let (last, bits) ← takeNumber 1 bits
    let (kind, bits) ← takeNumber 2 bits
    let (seen, bits) ← match kind with
      | 0 => inflateStored seen bits
      | 1 => inflateTokens .fixed (bits.length + 1) seen bits
      | 2 => do
        let (codes, bits) ← takeCodes bits
        inflateTokens codes (bits.length + 1) seen bits
      | _ => none
    if last == 1 then some (seen, bits) else inflateBlocks fuel seen bits

/-- The data of compressed blocks, and the bits behind them. -/
def inflate (bits : List Bool) : Option (List UInt8 × List Bool) :=
  (inflateBlocks (bits.length + 1) [] bits).map fun (seen, bits) => (seen.reverse, bits)

/-- Whether two bytes are a header. -/
def isHeader (a b : UInt8) : Bool :=
  (a.toNat * 256 + b.toNat) % 31 == 0 && a.toNat % 16 == 8 && a.toNat / 16 ≤ 7 &&
    b.toNat / 32 % 2 == 0

/-- The data that compressed data stands for. -/
def decompress : List UInt8 → Option (List UInt8)
  | a :: b :: rest => do
    guard (isHeader a b)
    let (data, bits) ← inflate (unpack rest)
    guard (align bits == unpack (adler32 data))
    some data
  | _ => none

end HttpAudit.Zlib
