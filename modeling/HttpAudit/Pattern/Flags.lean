import HttpAudit.Pattern.CharClass
import HttpAudit.Text.Blank

/-!
# Flags of a pattern

The flags that decide how the text of a pattern is read, and the parts of it that the flag for
extended layout makes meaningless.

## Main definitions

* `HttpAudit.Pattern.Flags` — the flags in force at a place of a pattern.
* `HttpAudit.Pattern.Flags.read` — a group of flags, read from the text of a pattern.
* `HttpAudit.Pattern.Flags.skip` — a text without the blanks and comments at its start.
-/

namespace HttpAudit.Pattern

/-- The flags in force at a place of a pattern. -/
structure Flags where
  /-- Letters match in either case. -/
  ignoreCase : Bool := false
  /-- `^` and `$` match at the ends of lines. -/
  multiLine : Bool := false
  /-- The dot matches line feeds, too. -/
  dotAll : Bool := false
  /-- The meaning of lazy and greedy repetitions is exchanged. -/
  swapGreed : Bool := false
  /-- Classes and word boundaries are those of all scripts. -/
  unicode : Bool := true
  /-- A carriage return ends a line, too. -/
  crlf : Bool := false
  /-- Blanks and comments are left out. -/
  extended : Bool := false
  deriving DecidableEq, Repr

/-- The text without leading blanks and comments, where `inComment` tells that it starts within
a comment. -/
def skipIgnored : (inComment : Bool) → List Char → List Char
  | _, [] => []
  | true, c :: rest => skipIgnored (c != '\n') rest
  | false, c :: rest =>
    if Text.isBlank c then skipIgnored false rest
    else if c == '#' then skipIgnored true rest
    else c :: rest

/-- The text up to the next closing brace, without blanks and comments if the layout is
`extended`, and the text after this brace. -/
def braced (extended : Bool) : (inComment : Bool) → List Char → Option (List Char × List Char)
  | _, [] => none
  | true, c :: rest => braced extended (c != '\n') rest
  | false, c :: rest =>
    if extended && Text.isBlank c then braced extended false rest
    else if extended && c == '#' then braced extended true rest
    else if c == '}' then some ([], rest)
    else (braced extended false rest).map fun (text, after) => (c :: text, after)

/-- What a group of flags is followed by. -/
inductive FlagsEnd where
  /-- A colon: the flags are those of a group. -/
  | colon
  /-- A parenthesis: the flags are those of the rest of the enclosing group. -/
  | parenthesis
  deriving DecidableEq, Repr

namespace Flags

/-- The text without leading blanks and comments, if the layout is extended. -/
def skip (flags : Flags) (s : List Char) : List Char :=
  if flags.extended then skipIgnored false s else s

/-- The flags with the one named `c` set to `on`. -/
def set? (flags : Flags) (on : Bool) : Char → Option Flags
  | 'i' => some { flags with ignoreCase := on }
  | 'm' => some { flags with multiLine := on }
  | 's' => some { flags with dotAll := on }
  | 'U' => some { flags with swapGreed := on }
  | 'u' => some { flags with unicode := on }
  | 'R' => some { flags with crlf := on }
  | 'x' => some { flags with extended := on }
  | _ => none

/-- Reads a group of flags, after those in `seen`, to the colon or parenthesis behind it. Flags
after a hyphen are switched off; nothing comes twice, and the hyphen not last. The list of what
was read is returned with the flags. -/
def read (flags : Flags) (seen : List Char) :
    List Char → Option (Flags × List Char × FlagsEnd × List Char)
  | [] => none
  | c :: rest =>
    if c == ':' || c == ')' then
      if seen.head? == some '-' then none
      else some (flags, seen, if c == ':' then .colon else .parenthesis, rest)
    else if seen.contains c then none
    else if c == '-' then read flags ('-' :: seen) rest
    else
      match flags.set? (!seen.contains '-') c with
      | some flags => read flags (c :: seen) rest
      | none => none

/-- The class together with its other cases, if these do not count. -/
def foldClass (flags : Flags) (cls : CharClass) : CharClass :=
  if flags.ignoreCase then (if flags.unicode then .folded cls else .foldedAscii cls) else cls

/-- The class or its complement. Without Unicode it may hold ASCII characters only. -/
def negateClass? (flags : Flags) (negated : Bool) (cls : CharClass) : Option CharClass :=
  let cls := if negated then .compl cls else cls
  if flags.unicode || cls.isAscii then some cls else none

end Flags

end HttpAudit.Pattern
