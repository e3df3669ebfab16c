import HttpAudit.Yaml.Gap

/-!
# Plain scalars

A scalar without marks ends at a colon before a gap, at a comment, and where a line is not
indented enough.

## Main definitions

* `HttpAudit.Yaml.takePlain` — reads a plain scalar.
-/

namespace HttpAudit.Yaml

/-- Whether a character is an indicator within brackets or braces. -/
def isFlowIndicator (c : Char) : Bool := [',', '[', ']', '{', '}'].contains c

/-- Reads the characters up to the next gap or the end of the scalar, behind those that have been
read, last first. Within brackets or braces a colon must not stand right before an indicator. -/
def takeWordFrom (inFlow : Bool) : (fuel : Nat) → (read : List Char) → Cursor →
    Option (List Char × Cursor)
  | 0, read, c => some (read.reverse, c)
  | fuel + 1, read, c =>
    match c.next? with
    | none => some (read.reverse, c)
    | some char =>
      if isBlank char || isBreak char then some (read.reverse, c)
      else if inFlow && char == ':' &&
          c.sees 1 (fun after => isFlowIndicator after || after == '?') false then none
      else if (char == ':' && c.seesGap 1) || (inFlow && isFlowIndicator char) then
        some (read.reverse, c)
      else takeWordFrom inFlow fuel (char :: read) (c.skip 1)

/-- Reads on in a plain scalar of which `read` has been read, last character first, behind a gap.
The result also tells whether the scalar was left behind a line break. The `fuel` is at least the
length of the text. -/
def takePlainFrom (inFlow : Bool) (indent : Nat) : (fuel : Nat) → (read : List Char) → Gap →
    Cursor → Option (List Char × Bool × Cursor)
  | 0, _, _, _ => none
  | fuel + 1, read, gap, c =>
    if c.atDocumentMark || c.startsWith '#' then some (read.reverse, gap.broken, c)
    else
      match takeWordFrom inFlow c.rest.length [] c with
      | none => none
      | some ([], c) => some (read.reverse, gap.broken, c)
      | some (word, c) =>
        let read := word.reverse ++ (gap.text.reverse ++ read)
        if c.sees 0 (fun char => isBlank char || isBreak char) false then
          match takeGap indent {} c with
          | none => none
          | some (gap, c) =>
            if !inFlow && c.column < indent then some (read.reverse, gap.broken, c)
            else takePlainFrom inFlow indent fuel read gap c
        else some (read.reverse, false, c)

/-- Reads the plain scalar that starts here, and tells whether it was left behind a line break. -/
def takePlain (inFlow : Bool) (indent : Nat) (c : Cursor) : Option (List Char × Bool × Cursor) :=
  takePlainFrom inFlow indent (c.rest.length + 1) [] {} c

end HttpAudit.Yaml
