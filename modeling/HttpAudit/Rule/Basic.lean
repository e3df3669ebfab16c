import HttpAudit.Pattern.Basic
import HttpAudit.Rule.Verb

/-!
# Rules

A compiled rule of a policy.

## Main definitions

* `HttpAudit.Rule` — a rule.
* `HttpAudit.Rule.inScope` — whether a rule is about a field.
* `HttpAudit.Rule.valueMatches` — whether its pattern matches a value.
* `HttpAudit.Rule.substitute` — a value with the matches of its pattern replaced.
-/

namespace HttpAudit

/-- The first parameter of a rule. -/
inductive Rule.Param where
  /-- There is none. -/
  | none
  /-- A pattern for values, or for keys of the session. -/
  | pattern (p : Pattern)
  /-- The share of messages that are kept. -/
  | percent (n : Nat)

/-- What the matches of a pattern are replaced by. -/
structure Rule.Substitution where
  /-- The replacement as it is written in the rule. -/
  written : List Char
  /-- The replacement as the text of a template. -/
  template : List Char
  deriving DecidableEq, Repr

/-- A rule. -/
structure Rule where
  /-- What the rule asks for. -/
  verb : Verb
  /-- The pattern for the names of the fields that the rule is about. -/
  scope : Option Pattern := none
  /-- The first parameter. -/
  param : Rule.Param := .none
  /-- What matches are replaced by. -/
  substitution : Option Rule.Substitution := none

namespace Rule

/-- The pattern that the first parameter is. -/
def Param.pattern? : Param → Option Pattern
  | .pattern p => some p
  | _ => Option.none

/-- The percentage that the first parameter is. -/
def Param.percent? : Param → Option Nat
  | .percent n => some n
  | _ => Option.none

/-- Whether the rule is about a field of the given name. A rule without a scope is about none. -/
def inScope (rule : Rule) (name : String) : Bool :=
  match rule.scope with
  | some p => p.isMatch name.toList
  | none => false

/-- Whether the first parameter is a pattern that matches the value. -/
def valueMatches (rule : Rule) (value : String) : Bool :=
  match rule.param.pattern? with
  | some p => p.isMatch value.toList
  | none => false

/-- The template that the matches of the rule are replaced by. -/
def template (rule : Rule) : Pattern.Template :=
  match rule.substitution with
  | some s => Pattern.Template.parse s.template
  | none => []

/-- The value with the matches of the first parameter replaced. -/
def substitute (rule : Rule) (value : String) : String :=
  match rule.param.pattern? with
  | some p => .ofList (p.replaceAll rule.template value.toList)
  | none => value

end Rule

end HttpAudit
