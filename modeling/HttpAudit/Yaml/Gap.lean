import HttpAudit.Yaml.Cursor

/-!
# Gaps between words

Within a scalar that goes on over several lines, blanks and line breaks between two words are
folded: a single line break stands for a space, and of several the first does not count.

## Main definitions

* `HttpAudit.Yaml.Gap` — the blanks and line breaks between two words.
* `HttpAudit.Yaml.Gap.text` — what they stand for.
* `HttpAudit.Yaml.takeGap` — reads a gap.
-/

namespace HttpAudit.Yaml

/-- The blanks and line breaks between two words. -/
structure Gap where
  /-- The blanks, if there is no line break. -/
  blanks : List Char := []
  /-- Whether there is a line break. -/
  broken : Bool := false
  /-- The first line break, unless it is escaped. -/
  first : List Char := []
  /-- The further line breaks. -/
  further : List Char := []
  deriving DecidableEq, Repr

/-- What a first line break and further ones stand for. -/
def foldBreaks (first further : List Char) : List Char :=
  if first == ['\n'] then (if further.isEmpty then [' '] else further) else first ++ further

/-- What the gap stands for. -/
def Gap.text (gap : Gap) : List Char :=
  if gap.broken then foldBreaks gap.first gap.further else gap.blanks

/-- Reads on in a gap. Behind a line break, no tab may stand in the first `indent` columns. The
`fuel` is at least the length of the text. -/
def takeGapFrom (indent : Nat) : (fuel : Nat) → Gap → Cursor → Option (Gap × Cursor)
  | 0, gap, c => some (gap, c)
  | fuel + 1, gap, c =>
    match c.next? with
    | none => some (gap, c)
    | some char =>
      if isBlank char then
        if gap.broken then
          if c.column < indent && char == '\t' then none
          else takeGapFrom indent fuel gap (c.skip 1)
        else takeGapFrom indent fuel { gap with blanks := gap.blanks ++ [char] } (c.skip 1)
      else if isBreak char then
        let (text, c) := c.takeBreak
        if gap.broken then
          takeGapFrom indent fuel { gap with further := gap.further ++ text } c
        else takeGapFrom indent fuel { gap with broken := true, first := text } c
      else some (gap, c)

/-- Reads a gap. -/
def takeGap (indent : Nat) (gap : Gap) (c : Cursor) : Option (Gap × Cursor) :=
  takeGapFrom indent c.rest.length gap c

end HttpAudit.Yaml
