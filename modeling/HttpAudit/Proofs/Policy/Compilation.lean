import HttpAudit.Proofs.Policy.Expansion
import HttpAudit.Proofs.Policy.Index

set_option relaxedAutoImplicit false
set_option autoImplicit false

/-!
# Compiling line by line

The text of a policy is compiled after all canned policies have been included in it as a whole. The
outcome is that of a reading line by line: each line is one rule, no rule, an error, or stands for
the lines of a canned policy, and the lines around it do not matter.

## Main definitions

* `HttpAudit.Rule.failure?`, `HttpAudit.Rule.ofLine?` — the error and the rule that a line gives.
* `HttpAudit.Policy.ofLines` — the outcome of some lines.

## Main results

* `HttpAudit.Rule.parseLines_eq` — the first error counts, and else all rules do.
* `HttpAudit.Policy.ofText_eq_ofLines` — a text is compiled line by line.
-/

namespace HttpAudit

namespace Rule

/-- The error that a line gives, if it does. -/
def failure? (line : List Char) : Option RuleError :=
  match parse line with
  | .error e => some e
  | .ok _ => none

/-- The rule that a line gives, if it does. -/
def ofLine? (line : List Char) : Option Rule :=
  match parse line with
  | .error _ => none
  | .ok rule => rule

/-- Of the errors of some lines the first one counts. If there is none, all rules are read. -/
lemma parseLines_eq (ls : List (List Char)) :
    parseLines ls =
      match ls.findSome? failure? with
      | some e => .error e
      | none => .ok (ls.filterMap ofLine?) := by
  induction ls with
  | nil => rfl
  | cons line ls ih =>
    rw [parseLines, ih, List.findSome?_cons, List.filterMap_cons]
    cases hline : parse line with
    | error e =>
      have hfailure : failure? line = some e := by rw [failure?, hline]
      rw [hfailure]
      rfl
    | ok rule =>
      have hfailure : failure? line = none := by rw [failure?, hline]
      have hrule : ofLine? line = rule := by rw [ofLine?, hline]
      rw [hfailure, hrule]
      cases ls.findSome? failure? with
      | some e => rfl
      | none => cases rule <;> rfl

/-- A blank line has neither a rule nor an error. -/
lemma parse_of_blank {line : List Char} (h : ∀ c ∈ line, Text.isBlank c = true) :
    parse line = .ok none := by
  have htrim : Text.trimLeft line = [] := List.dropWhile_eq_nil_iff.mpr h
  have htail : Part.isTail line = true := by rw [Part.isTail, htrim]
  rw [parse, if_pos htail]

/-- Blank lines do not matter. -/
lemma parseLines_inked (ls : List (List Char)) : parseLines (Text.inked ls) = parseLines ls := by
  induction ls with
  | nil => rfl
  | cons line ls ih =>
    by_cases hall : line.all Text.isBlank = true
    · have hskip : Text.inked (line :: ls) = Text.inked ls := by simp [Text.inked, hall]
      rw [hskip, ih, parseLines, parse_of_blank (List.all_eq_true.mp hall)]
      cases parseLines ls <;> rfl
    · have hkeep : Text.inked (line :: ls) = line :: Text.inked ls := by simp [Text.inked, hall]
      rw [hkeep, parseLines, parseLines, ih]

/-- The rules of a text with the canned policies included are those of the lines that its lines
stand for. -/
lemma parseAll_expand (s : List Char) :
    parseAll (Include.expand s) = parseLines ((Text.lines s).flatMap Include.linesFor) := by
  rw [parseAll, ← parseLines_inked, (Include.thins_expand s).inked_eq, parseLines_inked]

end Rule

namespace Policy

/-- The policy with the given text that some lines are compiled to: the error of the first line that
gives one, the number of sample rules if there are several, and else all rules. -/
def ofLines (text : String) (ls : List (List Char)) : Except RuleError Policy :=
  match ls.findSome? Rule.failure? with
  | some e => .error e
  | none =>
    let rules := ls.filterMap Rule.ofLine?
    let samples := rules.countP fun rule => rule.verb == .sample
    if 1 < samples then .error (.multipleSampleRules samples) else .ok ⟨text, rules⟩

/-- **Compiling is line by line.** What a text is compiled to is what its lines are compiled to,
each on its own, where a line with the directive to include a canned policy stands for the lines of
this policy: the same rules in the same order, or the same error. And when the canned policies are
included, the lines without a directive all stay as they are, except for blank lines with nothing
but blank lines between them and a directive.

**Proof sketch.** Blank lines are all that the inclusion as a whole can leave out
(`Include.thins_expand`), and they do not matter (`Rule.parseAll_expand`). A line that is neither
blank nor has a directive separates what is before it from what is behind it
(`Include.expands_lines`). -/
theorem ofText_eq_ofLines (text : String) :
    ofText text = ofLines text ((Text.lines text.toList).flatMap Include.linesFor) ∧
      Include.Expands (Text.lines text.toList) (Text.lines (Include.expand text.toList)) := by
  refine ⟨?_, Include.expands_lines text.toList⟩
  rw [ofText, Rule.parseAll_expand, Rule.parseLines_eq, ofLines]
  cases ((Text.lines text.toList).flatMap Include.linesFor).findSome? Rule.failure? with
  | some e => rfl
  | none =>
    simp only [rulesFor_eq_filter, List.countP_eq_length_filter]
    rfl

/-- Blank lines before a directive are lost when the canned policy is included. -/
theorem lines_expand_ne_flatMap :
    (Text.lines (Include.expand "\n\ninclude debug".toList)).map String.ofList =
        ["allow_http_url", "copy_session_field /.*/", ""] ∧
      ((Text.lines "\n\ninclude debug".toList).flatMap Include.linesFor).map String.ofList =
        ["", "", "allow_http_url", "copy_session_field /.*/", ""] := by
  decide +kernel

end Policy

end HttpAudit
