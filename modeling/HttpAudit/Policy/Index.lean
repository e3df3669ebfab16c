import HttpAudit.Rule.Basic

/-!
# Rules by their verbs

A policy works in stages, each of which asks for the rules with one verb. So the rules are sorted by
their verbs, one after the other.

## Main definitions

* `HttpAudit.RuleIndex` — rules by their verbs.
* `HttpAudit.RuleIndex.ofRules` — the index of a list of rules.
* `HttpAudit.RuleIndex.find?` — the rules with a verb.
-/

namespace HttpAudit

/-- Rules by their verbs. -/
structure RuleIndex where
  /-- The verbs that occur, in the order in which they first do, each with its rules. -/
  groups : List (Verb × Array Rule) := []

namespace RuleIndex

/-- The groups with another rule. It comes last among those with its verb, or is the first one. -/
def addTo (rule : Rule) : List (Verb × Array Rule) → List (Verb × Array Rule)
  | [] => [(rule.verb, #[rule])]
  | (verb, rules) :: rest =>
    if rule.verb = verb then (verb, rules.push rule) :: rest
    else (verb, rules) :: addTo rule rest

/-- The index with another rule. -/
def add (index : RuleIndex) (rule : Rule) : RuleIndex := ⟨addTo rule index.groups⟩

/-- The index of a list of rules. -/
def ofRules (rules : List Rule) : RuleIndex := rules.foldl add {}

/-- The rules with a verb, if there are some. -/
def find? (index : RuleIndex) (verb : Verb) : Option (Array Rule) := index.groups.lookup verb

/-- Whether there are rules with a verb. -/
def contains (index : RuleIndex) (verb : Verb) : Bool := (index.find? verb).isSome

end RuleIndex

end HttpAudit
