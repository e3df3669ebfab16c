import HttpAudit.Rule.Literal
import HttpAudit.Rule.Verb
import HttpAudit.Text.Blank

/-!
# The shapes of rule lines

A rule has a verb, around which its literals stand in a fixed order, and a comment may follow it.
So each verb has a shape, which is a list of parts, and a line is compared with it part by part.

## Main definitions

* `HttpAudit.Part` — a part of a shape.
* `HttpAudit.Verb.shape` — the shape of the rules with a verb.
* `HttpAudit.Part.read` — the literals of a line that has a given shape.

## Design

A literal reaches from a separator to a separator, not necessarily the same one, and as far as the
rest of the line allows. So the recognition of a literal is given the recognition of what follows
it. Blanks and digits are never given back, since no part that follows them starts with one.
-/

namespace HttpAudit

/-- A part of a shape. -/
inductive Part where
  /-- `least` blanks or more. -/
  | blanks (least : Nat)
  /-- A word. -/
  | word (text : List Char)
  /-- A literal with `least` characters or more between its separators. -/
  | literal (least : Nat)
  /-- One or more digits. -/
  | digits
  deriving DecidableEq, Repr

/-- The shape of the rules with the verb, up to their tail. -/
def Verb.shape (verb : Verb) : List Part :=
  let keyword := Part.word verb.keyword.toList
  .blanks 0 ::
    match verb.form with
    | .bare => [keyword]
    | .key => [keyword, .blanks 1, .literal 1]
    | .scope => [.literal 1, .blanks 0, keyword]
    | .condition => [.literal 1, .blanks 0, keyword, .blanks 1, .literal 1]
    | .substitution =>
      [.literal 1, .blanks 0, keyword, .blanks 1, .literal 1, .word [','], .blanks 1, .literal 0]
    | .percentage => [keyword, .blanks 1, .digits]

namespace Part

/-- Whether the text, behind blanks, is empty or a comment. -/
def isTail (s : List Char) : Bool :=
  match Text.trimLeft s with
  | [] => true
  | '#' :: rest => !rest.contains '\n'
  | _ => false

/-- The text after a word. -/
def word? (word s : List Char) : Option (List Char) :=
  if word.isPrefixOf s then some (s.drop word.length) else none

/-- Reads on to the last separator, behind `least` characters or more, after which `rest` accepts
the text. Line feeds do not occur before it. -/
def toSeparator {α : Type} (rest : List Char → Option α) (least : Nat) :
    List Char → Option (List Char × α)
  | [] => none
  | c :: s =>
    let longer := if c == '\n' then none else toSeparator rest (least - 1) s
    match longer with
    | some (text, a) => some (c :: text, a)
    | none =>
      if least == 0 && Literal.isSeparator c then (rest s).map fun a => ([c], a) else none

/-- Reads a literal with `least` characters or more between its separators, as long as possible,
such that `rest` accepts the text after it. -/
def literal? {α : Type} (least : Nat) (rest : List Char → Option α) (s : List Char) :
    Option (List Char × α) :=
  match s with
  | [] => none
  | c :: s =>
    if Literal.isSeparator c then (toSeparator rest least s).map fun (text, a) => (c :: text, a)
    else none

/-- The literals and digits in a text that has the given parts and a tail. -/
def read : List Part → List Char → Option (List (List Char))
  | [], s => if isTail s then some [] else none
  | blanks least :: parts, s =>
    if least ≤ (s.takeWhile Text.isBlank).length then read parts (Text.trimLeft s) else none
  | word text :: parts, s => (word? text s).bind (read parts)
  | literal least :: parts, s =>
    (literal? least (read parts) s).map fun (text, texts) => text :: texts
  | digits :: parts, s =>
    if (s.takeWhile Char.isDigit).isEmpty then none
    else (read parts (s.dropWhile Char.isDigit)).map (s.takeWhile Char.isDigit :: ·)

end Part

end HttpAudit
