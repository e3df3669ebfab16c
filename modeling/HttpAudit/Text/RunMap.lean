/-!
# Maps that are constant on runs of code points

The tables of a character standard give one label to long stretches of neighbouring code points.
A `RunMap` keeps only the starts of these stretches; a label is looked up by bisection.

## Main definitions

* `HttpAudit.Text.RunMap` — a map from code points to labels, as the starts of its runs.
* `HttpAudit.Text.RunMap.find?` — the label of a code point.
* `HttpAudit.Text.RunMap.ofRuns` — the map written as labels with their run lengths.
* `HttpAudit.Text.CodeSet` — a set of code points, as a map to truth values.

## Design

A table is written as one text, `"Cc:32 Zs Po:3"`, a label and the length of its run, a length
of one left out. A set is written as its alternating run lengths, the first of them outside the
set. Both forms are read once, when the table is first needed.
-/

namespace HttpAudit.Text

/-- A map from code points to labels: the label of a code point is that of the last entry whose
start does not lie above it. -/
structure RunMap (α : Type) where
  /-- The starts of the runs, in increasing order, each with its label. -/
  entries : Array (Nat × α)

namespace RunMap

variable {α : Type}

/-- Bisection between the entries `lo` and `hi`, of which the first starts at or below `c` and
the second above it; `fuel` bounds the number of halvings. -/
def bisect (m : RunMap α) (c : Nat) : (fuel lo hi : Nat) → Option (Nat × α)
  | 0, lo, _ => m.entries[lo]?
  | fuel + 1, lo, hi =>
    if hi ≤ lo + 1 then m.entries[lo]?
    else
      let mid := (lo + hi) / 2
      match m.entries[mid]? with
      | some (start, _) => if start ≤ c then m.bisect c fuel mid hi else m.bisect c fuel lo mid
      | none => none

/-- The label of the code point `c`, if some run starts at or below it. -/
def find? (m : RunMap α) (c : Nat) : Option α :=
  match m.bisect c (m.entries.size.log2 + 1) 0 m.entries.size with
  | some (start, a) => if start ≤ c then some a else none
  | none => none

/-- The decimal value of a text of digits. -/
def readCount (text : String) : Nat :=
  text.toList.foldl (fun n d => 10 * n + (d.toNat - '0'.toNat)) 0

/-- The words of a text, where `word` is the start of the first one, last to first. -/
def wordsFrom (word : List Char) : List Char → List String
  | [] => [String.ofList word.reverse]
  | c :: rest =>
    if c == ' ' || c == '\n' then String.ofList word.reverse :: wordsFrom [] rest
    else wordsFrom (c :: word) rest

/-- The words of a text, between blanks and line feeds. -/
def words (text : String) : List String :=
  (wordsFrom [] text.toList).filter (!·.isEmpty)

/-- Reads one run: its label and its length. -/
def readRun (text : String) : String × Nat :=
  match text.splitOn ":" with
  | [label, count] => (label, readCount count)
  | _ => (text, 1)

/-- The entries of consecutive runs, the first of which starts at `start`. -/
def entriesFrom (start : Nat) : List (α × Nat) → List (Nat × α)
  | [] => []
  | (a, n) :: rest => (start, a) :: entriesFrom (start + n) rest

/-- The map written in `text` as labels with run lengths, read by `label`. -/
def ofRuns (label : String → α) (text : String) : RunMap α :=
  ⟨(entriesFrom 0 ((words text).map fun run =>
    let (name, n) := readRun run
    (label name, n))).toArray⟩

end RunMap

/-- A set of code points. -/
abbrev CodeSet := RunMap Bool

namespace CodeSet

/-- Labels a list of run lengths with alternating truth values, the first of them `inside`. -/
def alternate (inside : Bool) : List Nat → List (Bool × Nat)
  | [] => [(inside, 1)]
  | n :: rest => (inside, n) :: alternate (!inside) rest

/-- The set written as its run lengths, the first of them outside the set. -/
def ofText (text : String) : CodeSet :=
  ⟨(RunMap.entriesFrom 0 (alternate false ((RunMap.words text).map RunMap.readCount))).toArray⟩

/-- Whether the code point `c` lies in the set. -/
def contains (s : CodeSet) (c : Nat) : Bool :=
  (s.find? c).getD false

end CodeSet

end HttpAudit.Text
