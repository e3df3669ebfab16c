import HttpAudit.Pattern.Syntax

/-!
# The size of compiled patterns

A pattern is compiled to two automata: one reads a text forwards and marks the groups, the other one
reads it backwards and leaves the groups out. Here the states of both are counted as compiling adds
them.

## Main definitions

* `HttpAudit.Pattern.Direction` — the direction in which an automaton reads.
* `HttpAudit.Pattern.CharClass.size` — the size of a class.
* `HttpAudit.Pattern.Syntax.size` — the size of a compiled pattern.

## Design

A state takes thirty-two bytes. Where several ways lead on from it, each takes eight bytes if it
reads a byte, and four if it does not. A class of characters becomes a tree of the bytes that encode
them, in which common beginnings are shared backwards, and common endings forwards. How many states
that takes is exact for ASCII characters and for classes of ranges that leave out only some of
these, as the complement of a few characters does. For other classes only the number of runs is
known, and each counts as many bytes as there are for a run of the class of letters and digits.
Alternatives are counted one by one, although compiling may find that some of them begin alike.
-/

namespace HttpAudit.Pattern

/-- The direction in which an automaton reads a text. -/
inductive Direction where
  /-- From the start. -/
  | forward
  /-- From the end. -/
  | backward
  deriving DecidableEq, Repr

/-- How many of the characters beyond ASCII a class has. -/
inductive Extent where
  /-- None of them. -/
  | none
  /-- Some of them, as far as is known. -/
  | part
  /-- All of them. -/
  | all
  deriving DecidableEq, Repr

namespace Extent

/-- What is in either of two classes. -/
def union : Extent → Extent → Extent
  | all, _ | _, all => all
  | none, none => none
  | _, _ => part

/-- What is outside of a class. -/
def compl : Extent → Extent
  | none => all
  | part => part
  | all => none

/-- What is in both of two classes. -/
def inter (a b : Extent) : Extent := (a.compl.union b.compl).compl

end Extent

namespace CharClass

/-- How many of the characters beyond ASCII the class has. -/
def extent : CharClass → Extent
  | range lo hi =>
    if hi < 128 then .none else if lo ≤ 128 && 0x10FFFF ≤ hi then .all else .part
  | property _ _ => .part
  | union a b => a.extent.union b.extent
  | inter a b => a.extent.inter b.extent
  | diff a b => a.extent.inter b.extent.compl
  | symmDiff a b => (a.extent.inter b.extent.compl).union (b.extent.inter a.extent.compl)
  | compl a => a.extent.compl
  | folded a | foldedAscii a => a.extent

/-- The number of runs of the class, if no two of its parts meet. -/
def runs : CharClass → Nat
  | range _ _ => 1
  | property count _ => count
  | union a b | inter a b | diff a b | symmDiff a b => a.runs + b.runs
  | compl a => a.runs + 1
  | folded a | foldedAscii a => 2 * a.runs

/-- The bytes of the states for a class with the given number of runs. -/
def sizeOfRuns (runs : Nat) : Extent → Direction → Nat
  | .none, _ => if runs == 1 then 64 else 64 + 8 * runs
  | .part, .forward => 64 + 25 * runs
  | .part, .backward => 64 + 62 * runs
  | .all, .forward => 352 + 8 * runs
  | .all, .backward => 928 + 36 * runs

/-- The bytes of the states for a class. A single character is read byte by byte. -/
def size (direction : Direction) : CharClass → Nat
  | range lo hi =>
    if lo == hi then 32 * (Char.ofNat lo).utf8Size
    else sizeOfRuns 1 (range lo hi).extent direction
  | cls => sizeOfRuns cls.runs cls.extent direction

end CharClass

namespace Syntax

/-- Whether the pattern can match the empty text. -/
def isNullable : Syntax → Bool
  | empty | assert _ => true
  | chars _ => false
  | group _ body => body.isNullable
  | cat a b => a.isNullable && b.isNullable
  | alt a b => a.isNullable || b.isNullable
  | loop least _ _ body => least == 0 || body.isNullable

/-- The bytes that a choice shares with one around it: two states, and the way to one of them. -/
def sharedSize : Syntax → Nat
  | alt _ _ => 68
  | _ => 0

/-- The bytes of the states of a pattern. -/
def stateSize (direction : Direction) : Syntax → Nat
  | empty | assert _ => 32
  | chars cls => cls.size direction
  | group _ body =>
    match direction with
    | .forward => body.stateSize direction + 64
    | .backward => body.stateSize direction
  | cat a b => a.stateSize direction + b.stateSize direction
  | alt a b =>
    (a.stateSize direction - a.sharedSize) + (b.stateSize direction - b.sharedSize) + 72
  | loop least most _ body =>
    let size := body.stateSize direction
    match least, most with
    | 0, none => if body.isNullable then size + 112 else size + 40
    | least, none => least * size + 40
    | 0, some 1 => size + 72
    | 0, some most => most * (size + 40) + 64
    | least, some most =>
      if least < most then least * size + (most - least) * (size + 40) + 32 else least * size

/-- The bytes of the larger automaton of the two. Either can start anywhere in a text, and the one
that reads forwards marks the whole match. -/
def size (tree : Syntax) : Nat :=
  max (tree.stateSize .forward + 168) (tree.stateSize .backward + 104)

end Syntax

end HttpAudit.Pattern
