/-!
# Replacement templates

A replacement for the matches of a pattern is a text with references to the groups of the pattern:
`$` followed by a number or a name, which may stand in braces. Two dollar signs stand for one, and
a dollar sign that starts no reference for itself.

## Main definitions

* `HttpAudit.Pattern.TemplatePart` — a piece of text or a reference.
* `HttpAudit.Pattern.Template.parse` — the parts of a template.
* `HttpAudit.Pattern.Template.expand` — the text that a template stands for.
-/

namespace HttpAudit.Pattern

/-- A part of a template. -/
inductive TemplatePart where
  /-- A character that stands for itself. -/
  | literal (c : Char)
  /-- The text of the group with an index. -/
  | index (n : Nat)
  /-- The text of the group with a name. -/
  | name (name : List Char)
  deriving DecidableEq, Repr

/-- A template. -/
abbrev Template := List TemplatePart

namespace Template

/-- Whether a character may stand in a reference without braces. -/
def isReferenceChar (c : Char) : Bool :=
  c.isAlphanum || c == '_'

/-- The group that a reference names: a decimal index, or a name. -/
def reference (text : List Char) : TemplatePart :=
  if !text.isEmpty && text.all Char.isDigit then
    .index (text.foldl (fun n d => 10 * n + (d.toNat - '0'.toNat)) 0)
  else .name text

/-- The text up to the first closing brace, and the text after it. -/
def untilBrace : List Char → Option (List Char × List Char)
  | [] => none
  | c :: rest =>
    if c == '}' then some ([], rest)
    else (untilBrace rest).map fun (text, after) => (c :: text, after)

/-- Reads the reference behind a dollar sign, if there is one. -/
def reference? (s : List Char) : Option (TemplatePart × List Char) :=
  match s with
  | '{' :: rest => (untilBrace rest).map fun (text, after) => (reference text, after)
  | s =>
    match s.takeWhile isReferenceChar with
    | [] => none
    | text => some (reference text, s.drop text.length)

/-- Reads the parts of a template; `fuel` is at least its length. -/
def parseWith : (fuel : Nat) → List Char → Template
  | 0, _ => []
  | _, [] => []
  | fuel + 1, '$' :: '$' :: rest => .literal '$' :: parseWith fuel rest
  | fuel + 1, '$' :: rest =>
    match reference? rest with
    | some (part, after) => part :: parseWith fuel after
    | none => .literal '$' :: parseWith fuel rest
  | fuel + 1, c :: rest => .literal c :: parseWith fuel rest

/-- The parts of a template. -/
def parse (s : List Char) : Template :=
  parseWith s.length s

/-- The text of a template, for the texts of the groups by index and by name. A group that took no
part in the match has an empty text. -/
def expand (byIndex : Nat → List Char) (byName : List Char → List Char) :
    Template → List Char
  | [] => []
  | .literal c :: rest => c :: expand byIndex byName rest
  | .index n :: rest => byIndex n ++ expand byIndex byName rest
  | .name text :: rest => byName text ++ expand byIndex byName rest

end Template

end HttpAudit.Pattern
