import HttpAudit.Pattern.Parser
import HttpAudit.Pattern.Search
import HttpAudit.Pattern.Size
import HttpAudit.Pattern.Template

/-!
# Patterns

Regular expressions with leftmost matching in the order of preference, as they are written in
rules.

## Main definitions

* `HttpAudit.Pattern` — a compiled pattern.
* `HttpAudit.Pattern.compile?` — compiles the text of a pattern.
* `HttpAudit.Pattern.isMatch` — whether a pattern matches somewhere in a text.
* `HttpAudit.Pattern.findAll` — the successive matches in a text.
* `HttpAudit.Pattern.replaceAll` — a text with all matches replaced.
-/

namespace HttpAudit

/-- A compiled pattern. -/
structure Pattern where
  /-- The text of the pattern. -/
  text : List Char
  /-- The pattern in core form. -/
  node : Pattern.Node
  /-- The number of capturing groups. -/
  groups : Nat
  /-- The named groups with their indices. -/
  names : List (List Char × Nat)

namespace Pattern

/-- The greatest size of a compiled pattern, in bytes. -/
def maxSize : Nat := 10 * Nat.pow 2 20

/-- Compiles a pattern, if it is well-formed and not too large. -/
def compile? (text : List Char) : Option Pattern := do
  let (tree, names) ← parse? text
  guard (tree.size ≤ maxSize)
  some ⟨text, tree.node, tree.groupIndices.foldl max 0, names⟩

/-- Whether the pattern matches somewhere in the text. -/
def isMatch (p : Pattern) (s : List Char) : Bool :=
  (scan p.node s).any Option.isSome

/-- A match of a pattern in a text. -/
structure Match where
  /-- Its first position. -/
  start : Nat
  /-- Its last position. -/
  stop : Nat
  /-- The marks of groups, first to last. -/
  marks : List Mark
  deriving DecidableEq, Repr

namespace Match

/-- The first and the last position of a group, or of the match for the index zero. Of several
rounds through the group the last one counts. -/
def span? (m : Match) (index : Nat) : Option (Nat × Nat) :=
  if index == 0 then some (m.start, m.stop)
  else do
    let marks := m.marks.filter fun mark => mark.group == index
    let opening ← (marks.filter (·.isStart)).getLast?
    let closing ← (marks.filter fun mark => !mark.isStart).getLast?
    some (opening.offset, closing.offset)

/-- The text of a group, where `s` is the text from the start of the match. -/
def groupText (m : Match) (s : List Char) (index : Nat) : List Char :=
  match m.span? index with
  | some (start, stop) => (s.drop (start - m.start)).take (stop - start)
  | none => []

end Match

/-- The successive matches, where `found` lists the preferred matches from `position` on. A match
starts at `least` at the earliest, and an empty one not where the match before it ended. -/
def successive (position least : Nat) (last : Option Nat) : List (Option Found) → List Match
  | [] => []
  | none :: found => successive (position + 1) least last found
  | some f :: found =>
    if position < least || (f.stop == position && last == some position) then
      successive (position + 1) least last found
    else ⟨position, f.stop, f.marks⟩ :: successive (position + 1) f.stop (some f.stop) found

/-- The successive matches in a text. -/
def findAll (p : Pattern) (s : List Char) : List Match :=
  successive 0 0 none (scan p.node s)

/-- The text `s` from `position` on, with the given matches replaced. -/
def substitute (replacement : Match → List Char → List Char) (s : List Char) (position : Nat) :
    List Match → List Char
  | [] => s
  | m :: rest =>
    let here := s.drop (m.start - position)
    s.take (m.start - position) ++ replacement m here ++
      substitute replacement (here.drop (m.stop - m.start)) m.stop rest

/-- The text that a template stands for at a match, where `s` is the text from its start. -/
def expandAt (p : Pattern) (template : Template) (m : Match) (s : List Char) : List Char :=
  template.expand (m.groupText s) fun name =>
    match p.names.lookup name with
    | some index => m.groupText s index
    | none => []

/-- The text with every match replaced by what the template stands for. -/
def replaceAll (p : Pattern) (template : Template) (s : List Char) : List Char :=
  substitute (p.expandAt template) s 0 (p.findAll s)

end Pattern

end HttpAudit
