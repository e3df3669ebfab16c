import HttpAudit.Text.Case

/-!
# Classes of characters

A class of characters is kept as the expression that denotes it; whether a character belongs to
it is decided by evaluating the expression.

## Main definitions

* `HttpAudit.Pattern.CharClass` — expressions for sets of code points.
* `HttpAudit.Pattern.CharClass.contains` — the set that an expression denotes.
-/

namespace HttpAudit.Pattern

/-- An expression for a set of code points. -/
inductive CharClass where
  /-- The code points from `lo` to `hi`. -/
  | range (lo hi : Nat)
  /-- The code points with a property; `count` estimates the number of their runs. -/
  | property (count : Nat) (holds : Nat → Bool)
  /-- The members of either class. -/
  | union (a b : CharClass)
  /-- The members of both classes. -/
  | inter (a b : CharClass)
  /-- The members of the first class that are not in the second. -/
  | diff (a b : CharClass)
  /-- The members of exactly one class. -/
  | symmDiff (a b : CharClass)
  /-- All code points outside the class. -/
  | compl (a : CharClass)
  /-- The code points with the same case folding as a member. -/
  | folded (a : CharClass)
  /-- The members, and the ASCII letters of which the class has the other case. -/
  | foldedAscii (a : CharClass)

namespace CharClass

/-- The class without members. -/
def none : CharClass := .range 1 0

/-- The class of all code points. -/
def any : CharClass := .range 0 0x10FFFF

/-- The class with one member. -/
def single (c : Char) : CharClass := .range c.toNat c.toNat

/-- The ASCII letter of the other case; any other code point stays as it is. -/
def swapAscii (c : Nat) : Nat :=
  if 65 ≤ c && c ≤ 90 then c + 32 else if 97 ≤ c && c ≤ 122 then c - 32 else c

/-- Whether the code point `c` belongs to the class. -/
def contains : CharClass → Nat → Bool
  | range lo hi, c => lo ≤ c && c ≤ hi
  | property _ holds, c => holds c
  | union a b, c => a.contains c || b.contains c
  | inter a b, c => a.contains c && b.contains c
  | diff a b, c => a.contains c && !b.contains c
  | symmDiff a b, c => a.contains c != b.contains c
  | compl a, c => !a.contains c
  | folded a, c => (Text.Case.orbit c).any fun d => a.contains d
  | foldedAscii a, c => a.contains c || a.contains (swapAscii c)

/-- Whether the class holds none of the code points from 128 to 255, so that as a class of bytes
it is one of ASCII characters. -/
def isAscii (a : CharClass) : Bool :=
  (List.range 128).all fun i => !a.contains (128 + i)

/-- The union of classes. -/
def unions : List CharClass → CharClass
  | [] => none
  | [a] => a
  | a :: rest => .union a (unions rest)

/-- The class of the ASCII characters with the given POSIX name. -/
def posix? : String → Option CharClass
  | "alnum" => some (unions [range 48 57, range 65 90, range 97 122])
  | "alpha" => some (unions [range 65 90, range 97 122])
  | "ascii" => some (range 0 127)
  | "blank" => some (unions [range 9 9, range 32 32])
  | "cntrl" => some (unions [range 0 31, range 127 127])
  | "digit" => some (range 48 57)
  | "graph" => some (range 33 126)
  | "lower" => some (range 97 122)
  | "print" => some (range 32 126)
  | "punct" => some (unions [range 33 47, range 58 64, range 91 96, range 123 126])
  | "space" => some (unions [range 9 13, range 32 32])
  | "upper" => some (range 65 90)
  | "word" => some (unions [range 48 57, range 65 90, range 95 95, range 97 122])
  | "xdigit" => some (unions [range 48 57, range 65 70, range 97 102])
  | _ => Option.none

end CharClass

end HttpAudit.Pattern
