import HttpAudit.Policy.Basic
import Mathlib.Data.List.Induction
import Mathlib.Tactic.Common

set_option relaxedAutoImplicit false
set_option autoImplicit false

/-!
# The index of a policy

The rules of a policy are there twice: in order, and sorted by their verbs. Here it is shown that
both tell the same. Under each verb that occurs the index has the rules of this verb, in order, and
it has no others; adding a rule keeps this, so it holds of the index of any list of rules.

## Main definitions

* `HttpAudit.RuleIndex.IsOf` — an index has the rules of a list.

## Main results

* `HttpAudit.RuleIndex.IsOf.add` — it has when a rule is added to both.
* `HttpAudit.RuleIndex.isOf_ofRules` — so does the index of a list of rules.
* `HttpAudit.Policy.rulesFor_eq_filter`, `HttpAudit.Policy.hasVerb_eq_any` — what the index of a
  policy tells about its rules.
-/

namespace HttpAudit

namespace RuleIndex

/-- The index has, under each verb, the rules of this verb in the list, in order, and nothing under
a verb that does not occur. -/
def IsOf (index : RuleIndex) (rules : List Rule) : Prop :=
  ∀ verb, index.find? verb =
    if rules.any (fun rule => rule.verb == verb) then
      some (rules.filter fun rule => rule.verb == verb).toArray
    else none

/-- What is found under a verb once a rule has been added: if it is the verb of the rule, then the
rule is the last one of those that were found before or the only one. -/
lemma lookup_addTo (groups : List (Verb × Array Rule)) (rule : Rule) (verb : Verb) :
    (addTo rule groups).lookup verb =
      if rule.verb = verb then some (((groups.lookup verb).getD #[]).push rule)
      else groups.lookup verb := by
  induction groups with
  | nil =>
    by_cases h : rule.verb = verb
    · simp [addTo, h]
    · simp [addTo, List.lookup_cons, h, beq_eq_false_iff_ne.mpr (Ne.symm h)]
  | cons group groups ih =>
    obtain ⟨v, rules⟩ := group
    rw [addTo]
    by_cases hadd : rule.verb = v
    · subst hadd
      by_cases h : rule.verb = verb
      · simp [h]
      · simp [h, List.lookup_cons, beq_eq_false_iff_ne.mpr (Ne.symm h)]
    · rw [if_neg hadd]
      by_cases h : verb = v
      · subst h
        simp [hadd]
      · simp only [List.lookup_cons, beq_eq_false_iff_ne.mpr h, ih]

/-- There are no rules in the empty index. -/
lemma isOf_nil : IsOf {} [] := fun _ => rfl

/-- If the index has the rules of a list, then it still has when a rule is added to both. -/
lemma IsOf.add {index : RuleIndex} {rules : List Rule} (h : index.IsOf rules) (rule : Rule) :
    (index.add rule).IsOf (rules ++ [rule]) := by
  intro verb
  have hfind : (index.add rule).find? verb =
      if rule.verb = verb then some (((index.find? verb).getD #[]).push rule)
      else index.find? verb := lookup_addTo index.groups rule verb
  rw [hfind, h verb]
  by_cases hverb : rule.verb = verb
  · cases hany : rules.any fun rule => rule.verb == verb with
    | true => simp [hverb, hany]
    | false =>
      have hnone : (rules.filter fun rule => rule.verb == verb) = [] := by
        rw [List.filter_eq_nil_iff]
        exact List.any_eq_false.mp hany
      simp [hverb, hany, hnone]
  · simp [hverb]

/-- The index of a list of rules has these rules. -/
lemma isOf_ofRules (rules : List Rule) : (ofRules rules).IsOf rules := by
  induction rules using List.reverseRecOn with
  | nil => exact isOf_nil
  | append_singleton rules rule ih =>
    rw [ofRules, List.foldl_append]
    exact ih.add rule

end RuleIndex

namespace Policy

/-- The rules that the index has under a verb are those of the policy with this verb, in order. -/
lemma rulesFor_eq_filter (p : Policy) (verb : Verb) :
    p.rulesFor verb = p.rules.filter fun rule => rule.verb == verb := by
  rw [rulesFor, index, RuleIndex.isOf_ofRules]
  cases hany : p.rules.any fun rule => rule.verb == verb with
  | true => rfl
  | false => exact (List.filter_eq_nil_iff.mpr (List.any_eq_false.mp hany)).symm

/-- The index has a verb if some rule of the policy has it. -/
lemma hasVerb_eq_any (p : Policy) (verb : Verb) :
    p.hasVerb verb = p.rules.any fun rule => rule.verb == verb := by
  rw [hasVerb, index, RuleIndex.contains, RuleIndex.isOf_ofRules]
  cases p.rules.any fun rule => rule.verb == verb <;> rfl

end Policy

end HttpAudit
