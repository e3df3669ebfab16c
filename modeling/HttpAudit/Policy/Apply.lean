import HttpAudit.Message.Basic
import HttpAudit.Number.Double
import HttpAudit.Policy.Basic

/-!
# Applying a policy

A policy decides whether a message is kept, and what is kept of it. It works in stages: the rules
that drop a message, the rules that remove fields, the rules that replace parts of values, and the
removal of empty values.

## Main definitions

* `HttpAudit.Draw` — the outcome of chance that a sample rule needs.
* `HttpAudit.Verdict` — a message that is kept, or the reason why it is not.
* `HttpAudit.Policy.judge` — the verdict of a policy on a message.
* `HttpAudit.Policy.apply` — what a policy keeps of a message.
-/

namespace HttpAudit

/-- A number drawn between zero and one, in units of the fifty-third power of one half. -/
structure Draw where
  /-- The number of units. -/
  units : Nat
  deriving DecidableEq, Repr

/-- The number as a percentage. It is rounded to double precision. -/
def Draw.percentage (draw : Draw) : Double :=
  .ofRatio (100 * draw.units) (Nat.pow 2 53)

/-- Whether the number is below a percentage, also once it has been rounded. -/
def Draw.isBelow (draw : Draw) (percent : Nat) : Bool :=
  let (num, den) := draw.percentage.ratio
  num < percent * den

/-- Why a message is dropped. -/
inductive DropReason where
  /-- It has a field that a stop rule is about. -/
  | stop
  /-- The condition of a rule with the given verb stops it. -/
  | condition (verb : Verb)
  /-- It does not belong to the sample. -/
  | sampling (percent : Nat)
  /-- All of its fields are removed. -/
  | noFields
  /-- All of its values are empty. -/
  | noValues
  deriving DecidableEq, Repr

/-- What is written to the log about a dropped message. -/
def DropReason.log? : DropReason → Option String
  | stop => some "Message dropped by stop rule"
  | condition verb => some ("Message dropped by " ++ verb.keyword ++ " rule")
  | sampling percent => some ("Message dropped by sampling at " ++ toString percent ++ "%")
  | noFields => some "Message dropped after removing every field"
  | noValues => none

/-- What a policy decides about a message. -/
inductive Verdict where
  /-- The message is kept in this form. -/
  | kept (message : Message)
  /-- The message is dropped. -/
  | dropped (reason : DropReason)
  deriving DecidableEq, Repr

/-- The message that is kept. -/
def Verdict.message? : Verdict → Option Message
  | kept message => some message
  | dropped _ => none

namespace Rule

/-- Whether the rule is about a field and its pattern matches the value. -/
def hits (rule : Rule) (field : String × String) : Bool :=
  rule.inScope field.1 && rule.valueMatches field.2

/-- Whether the rule is about a field of the message. -/
def concerns (rule : Rule) (m : Message) : Bool :=
  m.fields.any fun field => rule.inScope field.1

/-- Whether the rule hits a field of the message. -/
def hitsAny (rule : Rule) (m : Message) : Bool :=
  m.fields.any rule.hits

/-- The message with its field values replaced as the rule asks for. -/
def redact (rule : Rule) (m : Message) : Message :=
  ⟨m.fields.map fun (name, value) =>
    (name, if rule.inScope name then rule.substitute value else value)⟩

end Rule

namespace Policy

/-- Why the rules that drop a message drop it, if they do. -/
def refusal? (p : Policy) (m : Message) : Option DropReason :=
  if (p.rulesFor .stop).any (·.concerns m) then some .stop
  else if (p.rulesFor .stopIf).any (·.hitsAny m) then some (.condition .stopIf)
  else if (p.rulesFor .stopIfFound).any (·.hitsAny m) then some (.condition .stopIfFound)
  else if !(p.rulesFor .stopUnless).all (·.hitsAny m) then some (.condition .stopUnless)
  else if !(p.rulesFor .stopUnlessFound).all (·.hitsAny m) then
    some (.condition .stopUnlessFound)
  else none

/-- The message after each rule has removed the fields that do not pass its test. -/
def removeBy (test : Rule → String × String → Bool) (rules : List Rule) (m : Message) : Message :=
  rules.foldl (fun m rule => m.retain (test rule)) m

/-- The message without the fields that the rules remove. -/
def remove (p : Policy) (m : Message) : Message :=
  let unlessHit (rule : Rule) (field : String × String) :=
    !rule.inScope field.1 || !rule.valueMatches field.2
  let ifHit (rule : Rule) (field : String × String) :=
    !rule.inScope field.1 || rule.valueMatches field.2
  let m := removeBy (fun rule field => !rule.inScope field.1) (p.rulesFor .remove) m
  let m := removeBy ifHit (p.rulesFor .removeUnlessFound) m
  let m := removeBy unlessHit (p.rulesFor .removeIfFound) m
  let m := removeBy ifHit (p.rulesFor .removeUnless) m
  removeBy unlessHit (p.rulesFor .removeIf) m

/-- The message after the rules have replaced parts of its values, each in turn. -/
def redact (p : Policy) (m : Message) : Message :=
  (p.rulesFor .replace).foldl (fun m rule => rule.redact m) m

/-- What becomes of a message that is neither stopped nor left out of the sample. -/
def reduce (p : Policy) (m : Message) : Verdict :=
  let m := p.remove m
  if m.isEmpty then .dropped .noFields
  else
    let m := (p.redact m).retain fun field => !field.2.isEmpty
    if m.isEmpty then .dropped .noValues else .kept m

/-- The verdict of the policy on a message. -/
def judge (p : Policy) (draw : Draw) (m : Message) : Verdict :=
  match p.refusal? m with
  | some reason => .dropped reason
  | none =>
    match p.sample with
    | some percent => if draw.isBelow percent then p.reduce m else .dropped (.sampling percent)
    | none => p.reduce m

/-- What the policy keeps of a message, if anything. -/
def apply (p : Policy) (draw : Draw) (m : Message) : Option Message :=
  (p.judge draw m).message?

end Policy

end HttpAudit
