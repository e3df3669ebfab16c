import HttpAudit.Pattern.Basic
import HttpAudit.Rule.Error

/-!
# Delimited literals

Patterns and replacements stand in rules between two equal separators. A separator within the
literal is escaped by a backslash.

## Main definitions

* `HttpAudit.Literal.decode` — the text that a literal stands for.
* `HttpAudit.Literal.wholePattern` — a literal as a pattern with anchors at both ends.
* `HttpAudit.Literal.searchPattern` — a literal as a pattern without further anchors.
-/

namespace HttpAudit.Literal

/-- The separators, in the order in which they are tried. -/
def separators : List Char := ['~', '!', '%', '|', '/']

/-- Whether a character can enclose a literal. -/
def isSeparator (c : Char) : Bool :=
  separators.contains c

/-- Whether the separator occurs without a backslash directly before it, where `before` is the
character before the text. -/
def hasUnescaped (separator : Char) (before : Option Char) : List Char → Bool
  | [] => false
  | c :: rest => (c == separator && before != some '\\') || hasUnescaped separator (some c) rest

/-- The text in which escaped separators stand for themselves. -/
def unescape (separator : Char) : List Char → List Char
  | [] => []
  | [c] => [c]
  | c :: d :: rest =>
    if c == '\\' && d == separator then separator :: unescape separator rest
    else c :: unescape separator (d :: rest)

/-- The text between two equal separators. -/
def inner? (separator : Char) : List Char → Option (List Char)
  | c :: rest =>
    if c == separator && rest.getLast? == some separator then some rest.dropLast else none
  | [] => none

/-- The text that the literal `expression` in the line `rule` stands for. -/
def decode (rule expression : List Char) : Except RuleError (List Char) :=
  match separators.findSome? fun d => (inner? d expression).map (d, ·) with
  | some (d, inner) =>
    if hasUnescaped d none inner then .error (.unescapedSeparator d (.ofList rule))
    else .ok (unescape d inner)
  | none => .error (.invalidExpression (.ofList expression) (.ofList rule))

/-- The pattern text with an anchor at its start and its end, unless there is one. -/
def anchor (text : List Char) : List Char :=
  let text := if text.head? == some '^' then text else '^' :: text
  if text.getLast? == some '$' then text else text ++ ['$']

/-- Compiles the text that a literal stands for. -/
def compile (rule expression text : List Char) : Except RuleError Pattern :=
  match Pattern.compile? text with
  | some p => .ok p
  | none => .error (.invalidRegex (.ofList expression) (.ofList rule))

/-- The literal as a pattern with anchors at both ends. -/
def wholePattern (rule expression : List Char) : Except RuleError Pattern := do
  compile rule expression (anchor (← decode rule expression))

/-- The literal as a pattern to be searched for. -/
def searchPattern (rule expression : List Char) : Except RuleError Pattern := do
  compile rule expression (← decode rule expression)

end HttpAudit.Literal
