import HttpAudit.Rule.Shape

/-!
# Sentences

The sentence on a line of a policy: a verb with its literals as they are written.

## Main definitions

* `HttpAudit.Sentence` — a rule with its literals as they are written.
* `HttpAudit.Sentence.ofLine?` — the sentence that a line is.
-/

namespace HttpAudit

/-- A rule with its literals as they are written. -/
inductive Sentence where
  /-- A verb alone. -/
  | bare (verb : Verb)
  /-- A verb and a pattern for keys. -/
  | key (verb : Verb) (key : List Char)
  /-- A scope and a verb. -/
  | scope (verb : Verb) (scope : List Char)
  /-- A scope, a verb and a pattern for values. -/
  | condition (verb : Verb) (scope value : List Char)
  /-- A scope, a verb, a pattern and a replacement for its matches. -/
  | substitution (verb : Verb) (scope find replacement : List Char)
  /-- A verb and a percentage. -/
  | percentage (verb : Verb) (digits : List Char)
  deriving DecidableEq, Repr

namespace Sentence

/-- The sentence of a verb with the given literals, if they are as many as it has. -/
def ofTexts? (verb : Verb) (texts : List (List Char)) : Option Sentence :=
  match verb.form, texts with
  | .bare, [] => some (.bare verb)
  | .key, [text] => some (.key verb text)
  | .scope, [name] => some (.scope verb name)
  | .condition, [name, value] => some (.condition verb name value)
  | .substitution, [name, find, replacement] => some (.substitution verb name find replacement)
  | .percentage, [digits] => some (.percentage verb digits)
  | _, _ => none

/-- The sentence with the given verb that a line is. -/
def ofVerb? (verb : Verb) (line : List Char) : Option Sentence :=
  (Part.read verb.shape line).bind (ofTexts? verb)

/-- The sentence that a line is, with the first verb that fits. -/
def ofLine? (line : List Char) : Option Sentence :=
  Verb.all.findSome? fun verb => ofVerb? verb line

end Sentence

end HttpAudit
