import HttpAudit.Proofs.Policy.OnePass
import Mathlib.Data.List.Perm.Basic

set_option relaxedAutoImplicit false
set_option autoImplicit false

/-!
# The order of rules

The rules of a policy work in stages, whatever their order is. Within a stage each rule is asked on
its own, except where parts of values are replaced: there each rule finds what the ones before it
left. So the order of the rules matters among those that replace only.

## Main definitions

* `HttpAudit.Policy.Reorders` — two policies have the same rules up to the order of those that do
  not replace.

## Main results

* `HttpAudit.Policy.Reorders.judge_eq` — they give the same verdicts, for the same reasons.
* `HttpAudit.Policy.apply_eq_of_perm` — so they keep the same of all messages, and they agree on
  all settings.
-/

namespace HttpAudit.Policy

/-- The policies have the same rules, and those that replace parts of values are in the same
order. -/
structure Reorders (p q : Policy) : Prop where
  /-- The rules are the same but for their order. -/
  perm : p.rules.Perm q.rules
  /-- The rules that replace are in the same order. -/
  replace_eq : p.rulesFor .replace = q.rulesFor .replace

variable {p q : Policy}

namespace Reorders

variable (h : Reorders p q)

include h

/-- The rules with a verb are the same but for their order. -/
lemma rulesFor_perm (verb : Verb) : (p.rulesFor verb).Perm (q.rulesFor verb) := by
  rw [rulesFor_eq_filter, rulesFor_eq_filter]
  exact h.perm.filter _

/-- Both have a rule with a verb, or neither has. -/
lemma hasVerb_eq (verb : Verb) : p.hasVerb verb = q.hasVerb verb := by
  rw [hasVerb_eq_any, hasVerb_eq_any, h.perm.any_eq]

/-- Of two well-formed policies, where there is one sample rule at most, both have the same. -/
lemma sample_eq (hp : p.WellFormed) : p.sample = q.sample := by
  have hrules : p.rulesFor .sample = q.rulesFor .sample := by
    have hperm := h.rulesFor_perm .sample
    have hle := hp.sample_le_one
    match hs : p.rulesFor .sample with
    | [] => rw [hs] at hperm; exact hperm.nil_eq
    | [rule] => rw [hs] at hperm; exact (List.perm_singleton.mp hperm.symm).symm
    | _ :: _ :: _ => rw [hs] at hle; simp at hle
  rw [sample, sample, hrules]

/-- Both refuse a message for the same reason. -/
lemma refusal?_eq (m : Message) : p.refusal? m = q.refusal? m := by
  simp only [refusal?, (h.rulesFor_perm _).any_eq, (h.rulesFor_perm _).all_eq]

/-- Both remove the same fields. -/
lemma remove_eq (m : Message) : p.remove m = q.remove m := by
  have hfields : (p.remove m).fields = (q.remove m).fields := by
    rw [remove_fields, remove_fields]
    refine List.filter_congr fun field _ => ?_
    rw [h.perm.any_eq]
  exact congrArg Message.mk hfields

/-- Both rewrite the values in the same way. -/
lemma redact_eq (m : Message) : p.redact m = q.redact m := by
  rw [redact, redact, h.replace_eq]

/-- Both give the same verdict: a message is kept in the same form, or dropped for the same
reason. -/
lemma judge_eq (hp : p.WellFormed) (draw : Draw) (m : Message) :
    p.judge draw m = q.judge draw m := by
  have hreduce : p.reduce m = q.reduce m := by
    rw [reduce, reduce, h.remove_eq, h.redact_eq]
  rw [judge, judge, h.refusal?_eq, h.sample_eq hp, hreduce]

end Reorders

/-- **The order matters among replacements only.** Let the rules of a compiled policy be put into
another order, in which those that replace parts of values come one after the other as before. Then
of every message and under every draw the same is kept, and the settings that the rules stand for
are the same: whether messages may go to a URL without encryption, are sent without compression, or
are not sent at all; the sample; and how many rules there are with each verb.

**Proof sketch.** The rules with a verb are the same but for their order (`Reorders.rulesFor_perm`).
The stages that drop messages ask whether any or all of them find something, and the stages that
remove fields come down to one such question for each field (`remove_fields`), so that the order
does not matter. A compiled policy has one sample rule at most, which has no order
(`Reorders.sample_eq`). The stage that replaces is given the same list of rules. -/
theorem apply_eq_of_perm {text : String} (hp : ofText text = .ok p)
    (hperm : p.rules.Perm q.rules) (hreplace : p.rulesFor .replace = q.rulesFor .replace) :
    (∀ draw m, p.apply draw m = q.apply draw m) ∧
      p.allowHttpUrl = q.allowHttpUrl ∧ p.skipCompression = q.skipCompression ∧
      p.skipSubmission = q.skipSubmission ∧ p.sample = q.sample ∧
      ∀ verb, (p.rulesFor verb).length = (q.rulesFor verb).length := by
  have h : Reorders p q := ⟨hperm, hreplace⟩
  have hformed : p.WellFormed := wellFormed_of_ofText hp
  refine ⟨fun draw m => ?_, h.hasVerb_eq _, h.hasVerb_eq _, h.hasVerb_eq _, h.sample_eq hformed,
    fun verb => (h.rulesFor_perm verb).length_eq⟩
  rw [apply, apply, h.judge_eq hformed]

/-- Two replacements, of which the second one finds what the first one left, with a removal and a
sample rule that are moved from behind them to the front. -/
theorem apply_eq_of_perm_sampled :
    ∃ p first second removal share,
      ofText "/b/ replace /x/, /y/\n/b/ replace /y/, /z/\n/a/ remove\nsample 50" = .ok p ∧
        p.rules = [first, second, removal, share] ∧
        Policy.apply ⟨"", [removal, share, first, second]⟩ ⟨0⟩ ⟨[("a", "x"), ("b", "x")]⟩ =
          some ⟨[("b", "z")]⟩ := by
  let text := "/b/ replace /x/, /y/\n/b/ replace /y/, /z/\n/a/ remove\nsample 50"
  have hverbs : (ofText text).toOption.map (·.rules.map (·.verb)) =
      some [.replace, .replace, .remove, .sample] := by decide +kernel
  have hkept : (ofText text).toOption.map (·.apply ⟨0⟩ ⟨[("a", "x"), ("b", "x")]⟩) =
      some (some ⟨[("b", "z")]⟩) := by decide +kernel
  cases hp : ofText text with
  | error e => simp [hp, Except.toOption] at hverbs
  | ok p =>
    simp only [hp, Except.toOption, Option.map_some, Option.some.injEq] at hverbs hkept
    obtain ⟨first, _, hrules, hfirst, hverbs⟩ := List.map_eq_cons_iff.mp hverbs
    obtain ⟨second, _, rfl, hsecond, hverbs⟩ := List.map_eq_cons_iff.mp hverbs
    obtain ⟨removal, _, rfl, hremoval, hverbs⟩ := List.map_eq_cons_iff.mp hverbs
    obtain ⟨share, _, rfl, hshare, hverbs⟩ := List.map_eq_cons_iff.mp hverbs
    obtain rfl := List.map_eq_nil_iff.mp hverbs
    have hperm : p.rules.Perm [removal, share, first, second] := by
      rw [hrules]
      exact @List.perm_append_comm _ [first, second] [removal, share]
    have hreplace : p.rulesFor .replace =
        rulesFor ⟨"", [removal, share, first, second]⟩ .replace := by
      simp [rulesFor_eq_filter, hrules, hfirst, hsecond, hremoval, hshare]
    refine ⟨p, first, second, removal, share, rfl, hrules, ?_⟩
    rw [← hkept]
    exact ((apply_eq_of_perm hp hperm hreplace).1 _ _).symm

end HttpAudit.Policy
