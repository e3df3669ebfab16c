import HttpAudit.Text.Property

/-!
# Assertions

The conditions on a position of a text that a pattern can state: that the text or a line starts
or ends there, or that a word does.

## Main definitions

* `HttpAudit.Pattern.Assertion` — a condition on a position.
* `HttpAudit.Pattern.Assertion.holds` — whether it holds between two neighbouring characters.
-/

namespace HttpAudit.Pattern

/-- Which characters are parts of words: those of all scripts, or the ASCII ones alone. -/
inductive WordKind where
  /-- The word characters of all scripts. -/
  | unicode
  /-- ASCII letters and digits, and the underscore. -/
  | ascii
  deriving DecidableEq, Repr

/-- A condition on a position of a text. -/
inductive Assertion where
  /-- The text starts here. -/
  | startText
  /-- The text ends here. -/
  | endText
  /-- A line starts here; `crlf` counts a carriage return as an end of line, too. -/
  | startLine (crlf : Bool)
  /-- A line ends here. -/
  | endLine (crlf : Bool)
  /-- A word starts or ends here. -/
  | wordBoundary (kind : WordKind)
  /-- No word starts or ends here. -/
  | notWordBoundary (kind : WordKind)
  /-- A word starts here. -/
  | wordStart (kind : WordKind)
  /-- A word ends here. -/
  | wordEnd (kind : WordKind)
  /-- No word character stands before. -/
  | wordStartHalf (kind : WordKind)
  /-- No word character follows. -/
  | wordEndHalf (kind : WordKind)
  deriving DecidableEq, Repr

/-- Whether a neighbour of a position is a part of a word. -/
def WordKind.isWord (kind : WordKind) (neighbour : Option Char) : Bool :=
  match neighbour, kind with
  | none, _ => false
  | some c, .unicode => Text.Property.isWord c.toNat
  | some c, .ascii => c.isAlphanum || c == '_'

namespace Assertion

/-- Whether the assertion holds between the character `before` a position and the one `after`
it, of which the ends of the text lack one. -/
def holds (before after : Option Char) : Assertion → Bool
  | startText => before.isNone
  | endText => after.isNone
  | startLine false => before.isNone || before == some '\n'
  | startLine true =>
    before.isNone || before == some '\n' || (before == some '\r' && after != some '\n')
  | endLine false => after.isNone || after == some '\n'
  | endLine true =>
    after.isNone || after == some '\r' || (after == some '\n' && before != some '\r')
  | wordBoundary kind => kind.isWord before != kind.isWord after
  | notWordBoundary kind => kind.isWord before == kind.isWord after
  | wordStart kind => !kind.isWord before && kind.isWord after
  | wordEnd kind => kind.isWord before && !kind.isWord after
  | wordStartHalf kind => !kind.isWord before
  | wordEndHalf kind => !kind.isWord after

end Assertion

end HttpAudit.Pattern
