import HttpAudit.Command.Run
import HttpAudit.Proofs.Rule.Form
import Mathlib.Algebra.Ring.Nat
import Mathlib.Data.List.Perm.Basic

set_option relaxedAutoImplicit false
set_option autoImplicit false

/-!
# The command that checks a policy

The command lists the rules of a policy by their verbs, and the settings that the rules stand for.
All of this is told by the index of the policy, and it is right: the rules with the verbs are the
rules of the policy, each of them once, so each of them is counted in one line.

## Main definitions

* `HttpAudit.Policy.ViewsAgree` — all that a policy tells about its rules agrees with their list.
* `HttpAudit.Policy.IsListedIn` — a text lists the rules of a policy, each of them once.

## Main results

* `HttpAudit.Policy.flatMap_rulesFor_perm` — the rules with the verbs are the rules of the policy.
* `HttpAudit.Command.viewsAgree_of_ofText` — what a compiled policy tells about its rules, and what
  the command writes about it.
-/

namespace HttpAudit

namespace Policy

/-- All that a policy tells about its rules agrees with their list. -/
structure ViewsAgree (p : Policy) : Prop where
  /-- The rules with a verb are those in the list that have it, in the same order. -/
  rulesFor_eq : ∀ verb, p.rulesFor verb = p.rules.filter fun rule => rule.verb == verb
  /-- There are as many of them, for all verbs together, as there are rules. -/
  sum_length : (Verb.all.map fun verb => (p.rulesFor verb).length).sum = p.length
  /-- Messages may go to a URL without encryption if a rule says so. -/
  allowHttpUrl_iff : p.allowHttpUrl = true ↔ ∃ rule ∈ p.rules, rule.verb = .allowHttpUrl
  /-- Messages are sent without compression if a rule says so. -/
  skipCompression_iff : p.skipCompression = true ↔ ∃ rule ∈ p.rules, rule.verb = .skipCompression
  /-- Messages are not sent at all if a rule says so. -/
  skipSubmission_iff : p.skipSubmission = true ↔ ∃ rule ∈ p.rules, rule.verb = .skipSubmission
  /-- There is a sample if there is a sample rule. -/
  sample_isSome_iff : p.sample.isSome = true ↔ ∃ rule ∈ p.rules, rule.verb = .sample
  /-- It is the percentage of the only sample rule, between one and ninety-nine. -/
  sample_eq_some_iff : ∀ n, p.sample = some n ↔
    ∃ rule, (p.rules.filter fun rule => rule.verb == .sample) = [rule] ∧
      rule.param = .percent n ∧ 1 ≤ n ∧ n ≤ 99

/-- The text tells how many rules the policy has, lists them by their verbs, and tells the settings.
Every verb in the list is there once and has a line with the number of its rules, and these are all
rules of the policy, each of them once. -/
def IsListedIn (p : Policy) (text : String) : Prop :=
  ∃ verbs : List Verb, verbs.Nodup ∧ (∀ verb ∈ verbs, p.rulesFor verb ≠ []) ∧
    (verbs.flatMap p.rulesFor).Perm p.rules ∧
    text = "Compiled " ++ toString p.rules.length ++ " rules.\n" ++
      String.join (verbs.map fun verb =>
        "  " ++ verb.keyword ++ ": " ++ toString (p.rulesFor verb).length ++ "\n") ++
      "allow_http_url: " ++ toString p.allowHttpUrl ++ "\n" ++
      "skip_compression: " ++ toString p.skipCompression ++ "\n" ++
      "skip_submission: " ++ toString p.skipSubmission ++ "\n" ++
      "sample: " ++ p.sample.elim "none" (fun n => toString n ++ "%") ++ "\n"

/-! ## All rules, by their verbs -/

/-- Rules are sorted by verbs that include all of theirs: each rule is there once. -/
lemma flatMap_filter_perm {verbs : List Verb} (hnodup : verbs.Nodup) {rules : List Rule}
    (hmem : ∀ rule ∈ rules, rule.verb ∈ verbs) :
    (verbs.flatMap fun verb => rules.filter fun rule => rule.verb == verb).Perm rules := by
  induction verbs generalizing rules with
  | nil =>
    obtain rfl : rules = [] := List.eq_nil_iff_forall_not_mem.mpr fun rule hrule =>
      List.not_mem_nil (hmem rule hrule)
    exact .nil
  | cons v verbs ih =>
    obtain ⟨hv, hnodup⟩ := List.nodup_cons.mp hnodup
    -- the other verbs do not ask for the rules that have been sorted out
    have hothers : (verbs.flatMap fun verb => rules.filter fun rule => rule.verb == verb) =
        verbs.flatMap fun verb =>
          (rules.filter fun rule => !(rule.verb == v)).filter fun rule => rule.verb == verb := by
      refine List.flatMap_congr fun verb hverb => ?_
      rw [List.filter_filter]
      refine List.filter_congr fun rule _ => ?_
      by_cases h : rule.verb = verb
      · have hne : rule.verb ≠ v := fun heq => hv (heq ▸ h ▸ hverb)
        simp [h, h ▸ hne]
      · simp [h]
    have hmem' : ∀ rule ∈ rules.filter fun rule => !(rule.verb == v), rule.verb ∈ verbs := by
      intro rule hrule
      obtain ⟨hrule, hne⟩ := List.mem_filter.mp hrule
      exact (List.mem_cons.mp (hmem rule hrule)).resolve_left (by simpa using hne)
    have hrest := ih hnodup hmem'
    rw [List.flatMap_cons, hothers]
    exact (hrest.append_left _).trans (List.filter_append_perm _ rules)

/-- The rules with the verbs are the rules of the policy, each of them once. -/
lemma flatMap_rulesFor_perm (p : Policy) : (Verb.all.flatMap p.rulesFor).Perm p.rules := by
  have heq : Verb.all.flatMap p.rulesFor =
      Verb.all.flatMap fun verb => p.rules.filter fun rule => rule.verb == verb :=
    List.flatMap_congr fun verb _ => p.rulesFor_eq_filter verb
  rw [heq]
  exact flatMap_filter_perm Verb.nodup_all fun rule _ => rule.verb.mem_all

/-- Some rule has a verb if the index has it. -/
lemma hasVerb_iff (p : Policy) (verb : Verb) :
    p.hasVerb verb = true ↔ ∃ rule ∈ p.rules, rule.verb = verb := by
  simp [hasVerb_eq_any]

/-- The sample of a well-formed policy is the percentage of its only sample rule. -/
lemma WellFormed.sample_eq_some_iff_filter {p : Policy} (h : p.WellFormed) (n : Nat) :
    p.sample = some n ↔ ∃ rule, (p.rules.filter fun rule => rule.verb == .sample) = [rule] ∧
      rule.param = .percent n ∧ 1 ≤ n ∧ n ≤ 99 := by
  rw [h.sample_eq_some_iff]
  constructor
  · rintro ⟨rule, hrule, hverb, hparam⟩
    have hlength := h.sample_le_one
    have hmem : rule ∈ p.rulesFor .sample := mem_rulesFor.mpr ⟨hrule, hverb⟩
    obtain ⟨-, ⟨k, hk, hbounds⟩, -⟩ := by simpa [Rule.HasForm, hverb] using h.hasForm rule hrule
    obtain rfl : k = n := by simpa [hk] using hparam
    rw [rulesFor_eq_filter] at hlength hmem
    refine ⟨rule, ?_, hparam, hbounds⟩
    -- The rule is one of at most one.
    cases hsamples : p.rules.filter fun rule => rule.verb == .sample with
    | nil => simp [hsamples] at hmem
    | cons only others =>
      cases others with
      | nil => simpa [hsamples, eq_comm] using hmem
      | cons => simp [hsamples] at hlength
  · rintro ⟨rule, hsamples, hparam, -⟩
    have hmem : rule ∈ p.rules.filter fun rule => rule.verb == .sample := by simp [hsamples]
    obtain ⟨hrule, hverb⟩ := List.mem_filter.mp hmem
    exact ⟨rule, hrule, eq_of_beq hverb, hparam⟩

/-- What a well-formed policy tells about its rules agrees with their list. -/
lemma WellFormed.viewsAgree {p : Policy} (h : p.WellFormed) : p.ViewsAgree where
  rulesFor_eq := p.rulesFor_eq_filter
  sum_length := by rw [← List.length_flatMap, p.flatMap_rulesFor_perm.length_eq, length]
  allowHttpUrl_iff := p.hasVerb_iff _
  skipCompression_iff := p.hasVerb_iff _
  skipSubmission_iff := p.hasVerb_iff _
  sample_isSome_iff := by
    rw [Option.isSome_iff_exists]
    constructor
    · rintro ⟨n, hn⟩
      obtain ⟨rule, hrule, hverb, -⟩ := h.sample_eq_some_iff.mp hn
      exact ⟨rule, hrule, hverb⟩
    · rintro ⟨rule, hrule, hverb⟩
      obtain ⟨-, ⟨n, hn, -⟩, -⟩ := by simpa [Rule.HasForm, hverb] using h.hasForm rule hrule
      exact ⟨n, h.sample_eq_some_iff.mpr ⟨rule, hrule, hverb, hn⟩⟩
  sample_eq_some_iff := h.sample_eq_some_iff_filter

end Policy

namespace Command

/-! ## What is written -/

/-- The lines about verbs are those about the verbs that occur. -/
lemma join_verbLine (p : Policy) (verbs : List Verb) :
    String.join (verbs.map (verbLine p)) =
      String.join ((verbs.filter fun verb => !(p.rulesFor verb).isEmpty).map fun verb =>
        "  " ++ verb.keyword ++ ": " ++ toString (p.rulesFor verb).length ++ "\n") := by
  induction verbs with
  | nil => rfl
  | cons verb verbs ih =>
    rw [List.map_cons, String.join_cons, ih, verbLine]
    cases hrules : p.rulesFor verb with
    | nil => simp [hrules]
    | cons rule rules => simp [hrules]

/-- The rules with the verbs that occur are the rules with all verbs. -/
lemma flatMap_filter_rulesFor (p : Policy) (verbs : List Verb) :
    (verbs.filter fun verb => !(p.rulesFor verb).isEmpty).flatMap p.rulesFor =
      verbs.flatMap p.rulesFor := by
  induction verbs with
  | nil => rfl
  | cons verb verbs ih =>
    cases hrules : p.rulesFor verb with
    | nil => simp [hrules, ih]
    | cons rule rules => simp [hrules, ih]

/-- What is written about a policy lists its rules. -/
lemma isListedIn_summary (p : Policy) : p.IsListedIn (summary p) := by
  refine ⟨Verb.all.filter fun verb => !(p.rulesFor verb).isEmpty, Verb.nodup_all.filter _,
    ?_, ?_, ?_⟩
  · intro verb hverb hnil
    simpa [hnil] using (List.mem_filter.mp hverb).2
  · rw [flatMap_filter_rulesFor]
    exact p.flatMap_rulesFor_perm
  · unfold summary
    simp only [join_verbLine, Policy.length]
    cases p.sample with
    | none => simp only [Option.elim_none]
    | some n => simp only [Option.elim_some]

/-- **The views of a policy agree.** Let a text be compiled to a policy. The rules that it gives for
a verb are those in the list of its rules that have the verb, in the same order, and for all verbs
together there are as many as there are rules. The settings are those for which there is a rule.
There is a sample if there is a sample rule; then there is one only, and the sample is its
percentage, which is between one and ninety-nine. And for rules that are resolved to the text, the
command that checks rules succeeds, and what it writes lists each rule of the policy once.

**Proof sketch.** The rules are sorted by their verbs one after the other, so that the index has
under each verb those of the list (`RuleIndex.isOf_ofRules`). Every rule has one of the verbs, and
no verb is asked for twice, so that each rule is found once (`Policy.flatMap_rulesFor_perm`). That
there is one sample rule at most and that its percentage has bounds is a matter of compiling
(`Policy.wellFormed_of_ofText`). -/
theorem viewsAgree_of_ofText {text : String} {p : Policy} (h : Policy.ofText text = .ok p) :
    p.ViewsAgree ∧
      ∀ (s : Surroundings) (rules : Option String),
        resolveRules s.files .strict rules = .ok text →
          ∃ out, run s (.check rules) = .ok out ∧ p.IsListedIn out := by
  refine ⟨(Policy.wellFormed_of_ofText h).viewsAgree, fun s rules hrules => ?_⟩
  refine ⟨summary p, ?_, isListedIn_summary p⟩
  have hpolicy : Policy.resolve s.files .strict rules = .ok p := by
    rw [Policy.resolve, hrules]
    exact h
  rw [run, policy, hpolicy]
  rfl

/-- Two rules with one verb, and between them a sample rule and a setting. -/
theorem viewsAgree_of_ofText_sampled :
    let rules := "/a/ remove\nsample 20\nskip_compression\n/b/ remove"
    let out := "Compiled 4 rules.\n  remove: 2\n  sample: 1\n  skip_compression: 1\n" ++
      "allow_http_url: false\nskip_compression: true\nskip_submission: false\nsample: 20%\n"
    ∃ p, Policy.ofText rules = .ok p ∧ p.ViewsAgree ∧ p.sample = some 20 ∧ p.IsListedIn out := by
  intro rules out
  let s : Surroundings :=
    { files := fun _ => none
      stdin := []
      environment := fun _ => none
      now := ""
      draw := ⟨0⟩
      network := fun _ => .status 204 }
  have hrun : run s (.check (some rules)) = .ok out := by decide +kernel
  have hresolved : resolveRules s.files .strict (some rules) = .ok rules := by decide +kernel
  have hsample : (Policy.ofText rules).toOption.map Policy.sample = some (some 20) := by
    decide +kernel
  cases h : Policy.ofText rules with
  | error e => simp [h, Except.toOption] at hsample
  | ok p =>
    obtain ⟨hviews, hlists⟩ := viewsAgree_of_ofText h
    obtain ⟨out', hout, hlisted⟩ := hlists s (some rules) hresolved
    obtain rfl : out' = out := Except.ok.inj (hout.symm.trans hrun)
    exact ⟨p, rfl, hviews, by simpa [h, Except.toOption] using hsample, hlisted⟩

end Command

end HttpAudit
