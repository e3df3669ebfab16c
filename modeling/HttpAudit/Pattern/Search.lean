import HttpAudit.Pattern.Node

/-!
# Searching with a pattern

The match of a pattern that starts at each position of a text, found in one pass from the end of
the text to its start, with a number of steps that is the product of the sizes of pattern and
text.

## Main definitions

* `HttpAudit.Pattern.Found` — how a match ends: its last position and the marks of its groups.
* `HttpAudit.Pattern.Column` — a pattern with what follows each of its characters.
* `HttpAudit.Pattern.Column.step` — the matches that start at one position.
* `HttpAudit.Pattern.scan` — the preferred match from every position of a text.

## Design

Matching with a continuation tells of a pattern and a way to go on whether there is a match, in
the order of preference. At a fixed position a pattern either consumes a character, and then goes
on at the next position with what is already known there, or passes through without consuming any.
The outcome is a `Choice`: what is found before the first way through, that way, and what is found
after it. A second way through at the same position can find nothing that the first one does not.
In particular a repetition that comes back to its start without consuming a character gives up.
-/

namespace HttpAudit.Pattern

/-- A position at which a group starts or ends. -/
structure Mark where
  /-- The index of the group. -/
  group : Nat
  /-- Whether the group starts here. -/
  isStart : Bool
  /-- The position, as the number of characters before it. -/
  offset : Nat
  deriving DecidableEq, Repr

/-- How a match goes on from a position. -/
structure Found where
  /-- The position at which it ends. -/
  stop : Nat
  /-- The marks of groups on the way, first to last. -/
  marks : List Mark
  deriving DecidableEq, Repr

/-- The match with further marks before its own. -/
def Found.after (marks : List Mark) (f : Found) : Found :=
  { f with marks := marks ++ f.marks }

/-- A position of a text. -/
structure Spot where
  /-- The number of characters before it. -/
  offset : Nat
  /-- The character before it. -/
  before : Option Char
  /-- The character after it. -/
  next : Option Char

/-- What a pattern finds at one position, depending on what follows it there. -/
structure Choice where
  /-- The match that is preferred to any way through without a character. -/
  first : Option Found
  /-- The marks on the preferred way through without a character. -/
  pass : Option (List Mark)
  /-- The match that is found when what follows fails at this position. -/
  later : Option Found

namespace Choice

/-- The match when `k` is what follows the pattern at this position. -/
def value (c : Choice) (k : Option Found) : Option Found :=
  c.first <|> (c.pass.bind fun marks => k.map (Found.after marks)) <|> c.later

/-- A way through with the given marks, and nothing else. -/
def through (marks : List Mark) : Choice := ⟨none, some marks, none⟩

/-- No match. -/
def fail : Choice := ⟨none, none, none⟩

/-- The choice `a`, or if there is nothing `b`. -/
def orElse (a b : Choice) : Choice :=
  match a.pass with
  | none => ⟨a.first <|> a.later <|> b.first, b.pass, b.later⟩
  | some marks => ⟨a.first, some marks, a.later <|> b.first <|> b.later⟩

/-- The choice `a`, with `b` as what follows it. -/
def andThen (a b : Choice) : Choice :=
  match a.pass with
  | none => ⟨a.first <|> a.later, none, none⟩
  | some marks =>
    ⟨a.first <|> b.first.map (Found.after marks),
     b.pass.map (marks ++ ·),
     b.later.map (Found.after marks) <|> a.later⟩

/-- The choice with a mark at its start, and another one where it passes through. -/
def enclose (opening closing : Mark) (c : Choice) : Choice :=
  ⟨c.first.map (Found.after [opening]),
   c.pass.map fun marks => opening :: (marks ++ [closing]),
   c.later.map (Found.after [opening])⟩

end Choice

/-- A pattern in which each character knows how a match goes on after it. -/
inductive Column where
  /-- The empty text. -/
  | empty
  /-- A character of a class, and what follows it when it stands at the position last treated. -/
  | chars (cls : CharClass) (follow : Option Found)
  /-- A condition on the position. -/
  | assert (assertion : Assertion)
  /-- A capturing group. -/
  | group (index : Nat) (body : Column)
  /-- Two patterns one after the other. -/
  | cat (a b : Column)
  /-- Either pattern. -/
  | alt (a b : Column)
  /-- A repetition. -/
  | plus (greedy : Bool) (body : Column)

namespace Column

/-- The column behind the end of a text, where no character is followed by anything. -/
def ofNode : Node → Column
  | .empty => empty
  | .chars cls => chars cls none
  | .assert assertion => assert assertion
  | .group index body => group index (ofNode body)
  | .cat a b => cat (ofNode a) (ofNode b)
  | .alt a b => alt (ofNode a) (ofNode b)
  | .plus greedy body => plus greedy (ofNode body)

/-- What the pattern finds at a position, and its column there for a given match of what follows
the pattern. -/
def step (spot : Spot) : Column → Choice × (Option Found → Column)
  | empty => (.through [], fun _ => empty)
  | chars cls follow =>
    let hit := match spot.next with
      | some c => follow.isSome && cls.contains c.toNat
      | none => false
    (⟨if hit then follow else none, none, none⟩, fun k => chars cls k)
  | assert assertion =>
    (if assertion.holds spot.before spot.next then .through [] else .fail,
     fun _ => assert assertion)
  | group index body =>
    let (choice, fill) := body.step spot
    let closing : Mark := ⟨index, false, spot.offset⟩
    (choice.enclose ⟨index, true, spot.offset⟩ closing,
     fun k => group index (fill (k.map (Found.after [closing]))))
  | cat a b =>
    let (choiceA, fillA) := a.step spot
    let (choiceB, fillB) := b.step spot
    (choiceA.andThen choiceB, fun k => cat (fillA (choiceB.value k)) (fillB k))
  | alt a b =>
    let (choiceA, fillA) := a.step spot
    let (choiceB, fillB) := b.step spot
    (choiceA.orElse choiceB, fun k => alt (fillA k) (fillB k))
  | plus greedy body =>
    let (choice, fill) := body.step spot
    (choice, fun k =>
      let again := choice.value none
      plus greedy (fill (if greedy then again <|> k else k <|> again)))

end Column

/-- The preferred match from a position, and the column there, where `column` belongs to the
position behind it. -/
def Column.advance (column : Column) (spot : Spot) : Option Found × Column :=
  let (choice, fill) := column.step spot
  let goal : Option Found := some ⟨spot.offset, []⟩
  (choice.value goal, fill goal)

/-- Puts the preferred matches from the positions of a text in front of `later`. The text before
the last position is given last to first with its length `offset`; `next` stands after that
position, and `column` belongs to the one behind it. -/
def scanFrom (column : Column) (next : Option Char) (later : List (Option Found)) (offset : Nat) :
    (before : List Char) → List (Option Found)
  | [] => (column.advance ⟨offset, none, next⟩).1 :: later
  | c :: rest =>
    let (found, column) := column.advance ⟨offset, some c, next⟩
    scanFrom column (some c) (found :: later) (offset - 1) rest

/-- The preferred match from every position of a text, first to last. -/
def scan (node : Node) (s : List Char) : List (Option Found) :=
  scanFrom (.ofNode node) none [] s.length s.reverse

end HttpAudit.Pattern
