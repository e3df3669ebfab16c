/-!
# Repetitions in data

Data is written as a sequence of bytes and of copies of what came before.

## Main definitions

* `HttpAudit.Zlib.Token` — a byte or a copy.
* `HttpAudit.Zlib.tokens` — the tokens of data.
* `HttpAudit.Zlib.expandFrom` — the data of tokens.

## Design

The data seen so far is kept last byte first. So the byte that a copy from a distance gives next
is always at the same place, also when the copy overlaps its source.
-/

namespace HttpAudit.Zlib

/-- A byte, or a copy of bytes that came before. -/
inductive Token where
  /-- A byte. -/
  | literal (b : UInt8)
  /-- The bytes from `distance` bytes before, `length` of them. -/
  | copy (length distance : Nat)
  deriving DecidableEq, Repr

/-- The greatest length of a copy. -/
def maxCopy : Nat := 258

/-- The greatest distance at which copies are looked for. -/
def searchDistance : Nat := 1024

/-- How many bytes, at most `limit`, two pieces of data have in common at their start. -/
def commonLength : (limit : Nat) → (xs ys : List UInt8) → Nat
  | limit + 1, x :: xs, y :: ys => if x == y then commonLength limit xs ys + 1 else 0
  | _, _, _ => 0

/-- The longest copy that continues the data, among those from `distance` on, and the best one
found so far. The data from that distance on is `source`, what was seen before it is `seen`. Since a
copy may run into the data that it gives, `source` goes on with `rest`. -/
def longestFrom (rest : List UInt8) : (fuel distance : Nat) → (seen source : List UInt8) →
    (best : Nat × Nat) → Nat × Nat
  | 0, _, _, _, best => best
  | _, _, [], _, best => best
  | fuel + 1, distance, b :: seen, source, best =>
    if maxCopy ≤ best.1 then best
    else
      let length := commonLength maxCopy (b :: source) rest
      longestFrom rest fuel (distance + 1) seen (b :: source)
        (if best.1 < length then (length, distance) else best)

/-- The length and the distance of the longest copy that continues the data. -/
def longest (seen rest : List UInt8) : Nat × Nat :=
  longestFrom rest searchDistance 1 seen rest (0, 0)

/-- The tokens of the data `rest` behind what was seen. Each takes a byte at least, so that `fuel`
need not exceed the length. -/
def tokensFrom : (fuel : Nat) → (seen rest : List UInt8) → List Token
  | 0, _, _ => []
  | _, _, [] => []
  | fuel + 1, seen, b :: rest =>
    let (length, distance) := longest seen (b :: rest)
    if 3 ≤ length then
      .copy length distance ::
        tokensFrom fuel (((b :: rest).take length).reverse ++ seen) ((b :: rest).drop length)
    else .literal b :: tokensFrom fuel (b :: seen) rest

/-- The tokens of data. -/
def tokens (data : List UInt8) : List Token := tokensFrom data.length [] data

/-- What was seen, with the bytes of a copy in front. -/
def copyFrom (distance : Nat) : (length : Nat) → (seen : List UInt8) → Option (List UInt8)
  | 0, seen => some seen
  | length + 1, seen =>
    match seen[distance - 1]? with
    | some b => copyFrom distance length (b :: seen)
    | none => none

/-- What was seen, with the bytes of a token in front. -/
def expandToken (seen : List UInt8) : Token → Option (List UInt8)
  | .literal b => some (b :: seen)
  | .copy length distance => if distance == 0 then none else copyFrom distance length seen

/-- What was seen, with the bytes of tokens in front. -/
def expandFrom (seen : List UInt8) : List Token → Option (List UInt8)
  | [] => some seen
  | t :: rest => (expandToken seen t).bind fun seen => expandFrom seen rest

end HttpAudit.Zlib
