import HttpAudit.Policy.Defaults
import HttpAudit.Policy.Index
import HttpAudit.Rule.Parser

/-!
# Policies

## Main definitions

* `HttpAudit.Policy` — a compiled policy.
* `HttpAudit.Policy.ofText` — compiles the text of a policy.
* `HttpAudit.Policy.resolve` — compiles the rules that a policy is given as.
* `HttpAudit.Policy.index`, `HttpAudit.Policy.rulesFor` — the rules by their verbs, and those with a
  verb.
-/

namespace HttpAudit

/-- A compiled policy. -/
structure Policy where
  /-- The text that it is compiled from. -/
  text : String
  /-- Its rules, in order. -/
  rules : List Rule

namespace Policy

/-- The rules by their verbs. -/
def index (p : Policy) : RuleIndex := .ofRules p.rules

/-- The rules with the given verb, in order. -/
def rulesFor (p : Policy) (verb : Verb) : List Rule :=
  match p.index.find? verb with
  | some rules => rules.toList
  | none => []

/-- Whether there is a rule with the given verb. -/
def hasVerb (p : Policy) (verb : Verb) : Bool := p.index.contains verb

/-- Whether messages may go to a URL without encryption. -/
def allowHttpUrl (p : Policy) : Bool := p.hasVerb .allowHttpUrl

/-- Whether messages are sent without compression. -/
def skipCompression (p : Policy) : Bool := p.hasVerb .skipCompression

/-- Whether messages are not sent at all. -/
def skipSubmission (p : Policy) : Bool := p.hasVerb .skipSubmission

/-- The percentage of messages that are kept, if not all are. -/
def sample (p : Policy) : Option Nat :=
  (p.rulesFor .sample).head?.bind fun rule => rule.param.percent?

/-- The number of rules. -/
def length (p : Policy) : Nat := p.rules.length

/-- Compiles the text of a policy. There may be one sample rule at most. -/
def ofText (text : String) : Except RuleError Policy := do
  let rules ← Rule.parseAll (Include.expand text.toList)
  let policy : Policy := ⟨text, rules⟩
  let samples := (policy.rulesFor .sample).length
  if 1 < samples then .error (.multipleSampleRules samples) else .ok policy

/-- Compiles the rules that a policy is given as. -/
def resolve (files : Files) (defaults : DefaultRules) (rules : Option String) :
    Except RuleError Policy := do
  ofText (← resolveRules files defaults rules)

end Policy

end HttpAudit
