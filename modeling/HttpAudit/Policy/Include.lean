import HttpAudit.Policy.Canned
import HttpAudit.Text.Blank

/-!
# Include lines

A line of a policy that holds nothing but a directive to include some rules is replaced by these
rules.

## Main definitions

* `HttpAudit.Include.replace` — a text with all lines that hold a directive replaced.
* `HttpAudit.Include.expand` — a text with the canned policies included.

## Design

The blanks around a directive may be line feeds, so that blank lines next to a directive are
replaced together with it. What is replaced starts at the start of a line and ends at the end of
one: the line feed of its last line stays.
-/

namespace HttpAudit.Include

/-- The blanks at the start of a text as far as the last place among them that is the end of a
line, and the text from there on. -/
def toLineEnd? (s : List Char) : Option (List Char × List Char) :=
  match s with
  | [] => some ([], [])
  | c :: rest =>
    if Text.isBlank c then
      match toLineEnd? rest with
      | some (blanks, after) => some (c :: blanks, after)
      | none => if c == '\n' then some ([], s) else none
    else none

/-- For a text at the start of a line that starts with the directive, the blanks that are replaced
behind the directive and the text that is left. -/
def directive? (directive s : List Char) : Option (List Char × List Char) :=
  let s := Text.trimLeft s
  if directive.isPrefixOf s then toLineEnd? (s.drop directive.length) else none

/-- The text with the lines that hold the directive replaced by `body`. The `fuel` is at least the
length of the text; `lineStart` tells whether the text starts at the start of a line. -/
def replaceFrom (directive body : List Char) : (fuel : Nat) → (lineStart : Bool) → List Char →
    List Char
  | 0, _, s => s
  | _, _, [] => []
  | fuel + 1, lineStart, c :: rest =>
    match (if lineStart then directive? directive (c :: rest) else none) with
    | some (blanks, after) =>
      body ++ replaceFrom directive body fuel (blanks.getLast? == some '\n') after
    | none => c :: replaceFrom directive body fuel (c == '\n') rest

/-- The text with the lines that hold the directive replaced by `body`. -/
def replace (directive body s : List Char) : List Char :=
  replaceFrom directive body s.length true s

/-- The directive to include the policy of the given name. -/
def directive (name : String) : List Char := "include ".toList ++ name.toList

/-- The text with the canned policies included. -/
def expand (s : List Char) : List Char :=
  Canned.all.foldl (fun s canned => replace (directive canned.name) canned.text.toList s) s

end HttpAudit.Include
