import HttpAudit.Pattern.Assertion
import HttpAudit.Pattern.CharClass

/-!
# The syntax of patterns

The tree of a regular expression, in which counted repetitions are still counts.

## Main definitions

* `HttpAudit.Pattern.Syntax` — the tree of a pattern.
* `HttpAudit.Pattern.Syntax.repeated` — the tree of a repetition in its simplest form.
* `HttpAudit.Pattern.Syntax.groupIndices` — the groups of a pattern.
-/

namespace HttpAudit.Pattern

/-- The tree of a pattern. -/
inductive Syntax where
  /-- The empty text. -/
  | empty
  /-- One character of a class. -/
  | chars (cls : CharClass)
  /-- The empty text, at a position with a property. -/
  | assert (assertion : Assertion)
  /-- A capturing group. -/
  | group (index : Nat) (body : Syntax)
  /-- Two patterns one after the other. -/
  | cat (a b : Syntax)
  /-- Either pattern, preferably the first one. -/
  | alt (a b : Syntax)
  /-- A pattern from `least` to `most` times, preferably often if it is `greedy`. -/
  | loop (least : Nat) (most : Option Nat) (greedy : Bool) (body : Syntax)

namespace Syntax

/-- Whether the pattern matches no text but the empty one. -/
def isVoid : Syntax → Bool
  | empty => true
  | chars _ => false
  | assert _ => true
  | group _ body => body.isVoid
  | cat a b => a.isVoid && b.isVoid
  | alt a b => a.isVoid && b.isVoid
  | loop _ _ _ body => body.isVoid

/-- A repetition. What matches the empty text alone is repeated once at most; a repetition of no
times is empty, and one of exactly one time is its body. -/
def repeated (least : Nat) (most : Option Nat) (greedy : Bool) (body : Syntax) : Syntax :=
  let (least, most) :=
    if body.isVoid then (min least 1, some (min (most.getD 1) 1)) else (least, most)
  if least == 0 && most == some 0 then empty
  else if least == 1 && most == some 1 then body
  else loop least most greedy body

/-- The patterns one after the other. -/
def sequence : List Syntax → Syntax
  | [] => empty
  | [a] => a
  | a :: rest => cat a (sequence rest)

/-- The first of the patterns that matches. -/
def choice : List Syntax → Syntax
  | [] => empty
  | [a] => a
  | a :: rest => alt a (choice rest)

/-- The indices of the capturing groups. -/
def groupIndices : Syntax → List Nat
  | empty | chars _ | assert _ => []
  | group index body => index :: body.groupIndices
  | cat a b | alt a b => a.groupIndices ++ b.groupIndices
  | loop _ _ _ body => body.groupIndices

end Syntax

end HttpAudit.Pattern
