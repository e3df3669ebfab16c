/-!
# Errors in rules

Why the text of a policy is refused.

## Main definitions

* `HttpAudit.RuleError` — the reasons, with the offending text.
* `HttpAudit.RuleError.message` — what is told to the author of the rules.
-/

namespace HttpAudit

/-- Why the text of a policy is refused. -/
inductive RuleError where
  /-- A line is no rule. -/
  | invalidRule (line : String)
  /-- A literal is not enclosed in two equal separators. -/
  | invalidExpression (expression rule : String)
  /-- A literal is no pattern. -/
  | invalidRegex (expression rule : String)
  /-- A separator occurs within the literal that it encloses. -/
  | unescapedSeparator (separator : Char) (rule : String)
  /-- A percentage is not between one and ninety-nine. -/
  | invalidSamplePercent (percent : String)
  /-- There are `count` sample rules. -/
  | multipleSampleRules (count : Nat)
  /-- A file with rules cannot be read. -/
  | rulesLoad (path : String)
  deriving DecidableEq, Repr

namespace RuleError

/-- The kinds of errors in rules. -/
inductive Kind where
  /-- A line or a literal is malformed. -/
  | malformed
  /-- A well-formed rule has no acceptable meaning. -/
  | semantic
  /-- The rules cannot be read. -/
  | load
  deriving DecidableEq, Repr

/-- The kind of an error. -/
def kind : RuleError → Kind
  | invalidRule _ | invalidExpression _ _ | invalidRegex _ _ | unescapedSeparator _ _ => .malformed
  | invalidSamplePercent _ | multipleSampleRules _ => .semantic
  | rulesLoad _ => .load

/-- What is told to the author of the rules. -/
def message : RuleError → String
  | invalidRule line => "Invalid rule: " ++ line
  | invalidExpression expression rule =>
    "Invalid expression (" ++ expression ++ ") in rule: " ++ rule
  | invalidRegex expression rule => "Invalid regex (" ++ expression ++ ") in rule: " ++ rule
  | unescapedSeparator separator rule =>
    "Unescaped separator (" ++ separator.toString ++ ") in rule: " ++ rule
  | invalidSamplePercent percent => "Invalid sample percent: " ++ percent
  | multipleSampleRules _ => "Multiple sample rules"
  | rulesLoad path => "Failed to load rules: " ++ path

end RuleError

end HttpAudit
