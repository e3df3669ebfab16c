import HttpAudit.Rule.Basic
import HttpAudit.Rule.Replacement
import HttpAudit.Rule.Sentence

/-!
# Reading rules

## Main definitions

* `HttpAudit.Sentence.compile` — the rule that a sentence stands for.
* `HttpAudit.Rule.parse` — the rule on a line, if it is neither blank nor a comment.
* `HttpAudit.Rule.parseAll` — the rules of a text, or the first error in it.
-/

namespace HttpAudit

/-- The percentage with the given digits, if it is between one and ninety-nine. -/
def percent? (digits : List Char) : Option Nat :=
  let n := digits.foldl (fun n d => 10 * n + (d.toNat - '0'.toNat)) 0
  if 1 ≤ n && n ≤ 99 then some n else none

/-- The rule that a sentence on the given line stands for. Its literals are compiled in the order
in which they stand. -/
def Sentence.compile (line : List Char) : Sentence → Except RuleError Rule
  | bare verb => .ok { verb }
  | key verb text => do
    .ok { verb, param := .pattern (← Literal.wholePattern line text) }
  | scope verb text => do
    .ok { verb, scope := some (← Literal.wholePattern line text) }
  | condition verb nameText valueText => do
    let name ← Literal.wholePattern line nameText
    let value ←
      if verb.isSearch then Literal.searchPattern line valueText
      else Literal.wholePattern line valueText
    .ok { verb, scope := some name, param := .pattern value }
  | substitution verb nameText findText replacement => do
    let name ← Literal.wholePattern line nameText
    let find ← Literal.searchPattern line findText
    let written ← Literal.decode line replacement
    .ok
      { verb
        scope := some name
        param := .pattern find
        substitution := some ⟨written, Replacement.toTemplate find.groups written⟩ }
  | percentage verb digits =>
    match percent? digits with
    | some n => .ok { verb, param := .percent n }
    | none => .error (.invalidSamplePercent (.ofList digits))

namespace Rule

/-- The rule on a line, if it is neither blank nor a comment. -/
def parse (line : List Char) : Except RuleError (Option Rule) :=
  if Part.isTail line then .ok none
  else
    match Sentence.ofLine? line with
    | some sentence => (sentence.compile line).map some
    | none => .error (.invalidRule (.ofList line))

/-- The rules on the given lines, or the first error in them. -/
def parseLines : List (List Char) → Except RuleError (List Rule)
  | [] => .ok []
  | line :: rest => do
    let rule ← parse line
    let rules ← parseLines rest
    .ok (rule.toList ++ rules)

/-- The rules of a text, or the first error in it. -/
def parseAll (text : List Char) : Except RuleError (List Rule) :=
  parseLines (Text.lines text)

end Rule

end HttpAudit
