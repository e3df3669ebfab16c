import HttpAudit.Zlib.Bits

/-!
# Canonical Huffman codes

A prefix code is given by the lengths of its code words, of which the shorter come first and those
of the same length stand in the order of their symbols.

## Main definitions

* `HttpAudit.Zlib.codeWords` — the code words for given lengths.
* `HttpAudit.Zlib.CodeTree` — a prefix code as a binary tree.
* `HttpAudit.Zlib.CodeTree.decode` — takes a symbol off the bits.
-/

namespace HttpAudit.Zlib

/-- The symbols with a code word of length `n`. -/
def symbolsOfLength (lengths : List Nat) (n : Nat) : List Nat :=
  (lengths.zipIdx.filter fun entry => entry.1 == n).map (·.2)

/-- The `width` lowest bits of a number, highest first. -/
def wordBits (width n : Nat) : List Bool := (numberBits width n).reverse

/-- The code words of `more` lengths from `n` on, the first of which has the value `code`, with
their symbols. -/
def codeWordsFrom (lengths : List Nat) : (more n code : Nat) → List (Nat × List Bool)
  | 0, _, _ => []
  | more + 1, n, code =>
    let symbols := symbolsOfLength lengths n
    (symbols.zipIdx.map fun (symbol, i) => (symbol, wordBits n (code + i))) ++
      codeWordsFrom lengths more (n + 1) (2 * (code + symbols.length))

/-- The greatest length of a code word. -/
def maxWordLength : Nat := 15

/-- The code words for the given lengths, with their symbols. A length of zero means that there is
no code word. -/
def codeWords (lengths : List Nat) : List (Nat × List Bool) :=
  codeWordsFrom lengths maxWordLength 1 0

/-- A prefix code as a binary tree. -/
inductive CodeTree where
  /-- There is no code word here. -/
  | empty
  /-- The code word of a symbol ends here. -/
  | leaf (symbol : Nat)
  /-- Code words go on with a zero or with a one. -/
  | node (zero one : CodeTree)
  deriving DecidableEq, Repr

namespace CodeTree

/-- The code with another code word; nothing is added below a leaf. -/
def insert (symbol : Nat) : List Bool → CodeTree → CodeTree
  | [], empty => leaf symbol
  | [], t => t
  | false :: rest, empty => node (insert symbol rest empty) empty
  | true :: rest, empty => node empty (insert symbol rest empty)
  | false :: rest, node zero one => node (insert symbol rest zero) one
  | true :: rest, node zero one => node zero (insert symbol rest one)
  | _ :: _, leaf s => leaf s

/-- The code with the given lengths of code words. -/
def ofLengths (lengths : List Nat) : CodeTree :=
  (codeWords lengths).foldl (fun t entry => t.insert entry.1 entry.2) empty

/-- Takes the code word of a symbol off the bits. -/
def decode : CodeTree → List Bool → Option (Nat × List Bool)
  | leaf symbol, bits => some (symbol, bits)
  | node zero one, b :: rest => if b then one.decode rest else zero.decode rest
  | _, _ => none

end CodeTree

end HttpAudit.Zlib
