import HttpAudit.Pattern.Syntax

/-!
# Patterns without counts

The core form of a pattern, in which the only repetition is the one without an upper bound. All
others are written out as copies.

## Main definitions

* `HttpAudit.Pattern.Node` — a pattern in core form.
* `HttpAudit.Pattern.Node.loop` — a counted repetition, written out.
* `HttpAudit.Pattern.Syntax.node` — the core form of a pattern.
-/

namespace HttpAudit.Pattern

/-- A pattern in core form. -/
inductive Node where
  /-- The empty text. -/
  | empty
  /-- One character of a class. -/
  | chars (cls : CharClass)
  /-- The empty text, at a position with a property. -/
  | assert (assertion : Assertion)
  /-- A capturing group. -/
  | group (index : Nat) (body : Node)
  /-- Two patterns one after the other. -/
  | cat (a b : Node)
  /-- Either pattern, preferably the first one. -/
  | alt (a b : Node)
  /-- A pattern at least once, preferably often if it is `greedy`. -/
  | plus (greedy : Bool) (body : Node)

namespace Node

/-- The pattern or nothing. -/
def opt (greedy : Bool) (body : Node) : Node :=
  if greedy then alt body empty else alt empty body

/-- A row of `n` copies of the pattern. -/
def row (body : Node) : (n : Nat) → Node
  | 0 => empty
  | 1 => body
  | n + 2 => cat body (row body (n + 1))

/-- A row of `n` copies of the pattern, made of shorter rows so that its depth stays small. -/
def copies (n : Nat) (body : Node) : Node :=
  if n < 256 then row body n
  else cat (row (row body 256) (n / 256)) (row body (n % 256))

/-- The pattern at most `n` times. -/
def atMost (greedy : Bool) (body : Node) : (n : Nat) → Node
  | 0 => empty
  | 1 => opt greedy body
  | n + 2 => opt greedy (cat body (atMost greedy body (n + 1)))

/-- The two patterns one after the other, where an empty one is left out. -/
def append : Node → Node → Node
  | empty, b => b
  | a, empty => a
  | a, b => cat a b

/-- The pattern from `least` to `most` times. -/
def loop (least : Nat) (most : Option Nat) (greedy : Bool) (body : Node) : Node :=
  match least, most with
  | 0, none => opt greedy (plus greedy body)
  | n + 1, none => append (copies n body) (plus greedy body)
  | n, some m => append (copies n body) (atMost greedy body (m - n))

end Node

/-- The core form of a pattern. -/
def Syntax.node : Syntax → Node
  | empty => .empty
  | chars cls => .chars cls
  | assert assertion => .assert assertion
  | group index body => .group index body.node
  | cat a b => .cat a.node b.node
  | alt a b => .alt a.node b.node
  | loop least most greedy body => .loop least most greedy body.node

end HttpAudit.Pattern
