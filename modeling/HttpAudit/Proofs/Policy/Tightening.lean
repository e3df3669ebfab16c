import HttpAudit.Proofs.Policy.Erasure

set_option relaxedAutoImplicit false
set_option autoImplicit false

/-!
# Tighter policies

A rule that drops messages or removes fields can only take away. With one more of them, wherever it
stands, a policy keeps of a message a part of what it kept before: some of the fields, in the same
order and with the same redacted values, or nothing. The rule cannot bring back what another rule
takes away, and it does not change what the rules that replace parts of values do.

## Main definitions

* `HttpAudit.Verb.isRemove`, `HttpAudit.Verb.isRestrictive` — the rules that can only take away.
* `HttpAudit.Policy.Tightens` — a policy is another one with more rules of this kind.

## Main results

* `HttpAudit.Policy.apply_eq_some_iff` — what has to come together for a message to be kept.
* `HttpAudit.Policy.Tightens.apply_eq_some` — a tighter policy keeps a part of a message.
* `HttpAudit.Policy.apply_sublist_of_insert` — so does one with one more rule.
-/

namespace HttpAudit

/-! ## Restrictive rules -/

namespace Verb

/-- Whether a rule with the verb removes fields. -/
def isRemove : Verb → Bool
  | .remove | .removeIf | .removeIfFound | .removeUnless | .removeUnlessFound => true
  | _ => false

/-- Whether a rule with the verb drops messages by their fields or removes fields, so that it can
only take away. -/
def isRestrictive (v : Verb) : Bool := v.isStop || v.isRemove

end Verb

namespace Policy

/-- The policy has all rules of another one. Those of its rules that do not only take away are the
same and in the same order. -/
structure Tightens (q p : Policy) : Prop where
  /-- No rule is left out. -/
  subset : p.rules ⊆ q.rules
  /-- The other rules are the same. -/
  others : (q.rules.filter fun rule => !rule.verb.isRestrictive) =
    p.rules.filter fun rule => !rule.verb.isRestrictive

/-- A policy with one more restrictive rule is tighter. -/
lemma tightens_of_insert {p q : Policy} {rule : Rule} {before after : List Rule}
    (hp : p.rules = before ++ after) (hq : q.rules = before ++ rule :: after)
    (hrule : rule.verb.isRestrictive = true) : q.Tightens p where
  subset := by
    rw [hp, hq]
    exact List.append_subset.mpr
      ⟨List.subset_append_left .., fun other h =>
        List.mem_append_right before (List.mem_cons_of_mem rule h)⟩
  others := by simp [hp, hq, List.filter_append, hrule]

/-! ## What has to come together -/

/-- A message is kept if no rule drops it, the draw is in favour, and a field is left; what is kept
are the fields that are left. -/
lemma apply_eq_some_iff {p : Policy} {draw : Draw} {m kept : Message} :
    p.apply draw m = some kept ↔
      p.refusal? m = none ∧ (∀ n ∈ p.sample, draw.isBelow n = true) ∧
        m.fields.filterMap p.fate = kept.fields ∧ kept.fields ≠ [] := by
  have hreduce : (p.reduce m).message? = some kept ↔
      m.fields.filterMap p.fate = kept.fields ∧ kept.fields ≠ [] := by
    obtain ⟨fields⟩ := kept
    rw [reduce_message?]
    constructor
    · intro h
      split_ifs at h with hnone
      obtain rfl := congrArg Message.fields (Option.some.inj h)
      exact ⟨rfl, fun hnil => hnone (List.isEmpty_iff.mpr hnil)⟩
    · rintro ⟨rfl, hsome⟩
      rw [if_neg fun hnone => hsome (List.isEmpty_iff.mp hnone)]
  unfold apply judge
  cases p.refusal? m with
  | some reason => simp [Verdict.message?]
  | none =>
    cases p.sample with
    | none => simpa using hreduce
    | some n =>
      cases hn : draw.isBelow n with
      | false => simp [hn, Verdict.message?]
      | true => simpa [hn] using hreduce

/-- If fewer elements of a list have an image, and those have the same, then the images are a
sublist. -/
lemma filterMap_sublist {α β : Type} {f g : α → Option β}
    (h : ∀ a b, f a = some b → g a = some b) (l : List α) :
    (l.filterMap f).Sublist (l.filterMap g) := by
  induction l with
  | nil => exact .slnil
  | cons a l ih =>
    cases hf : f a with
    | none =>
      rw [List.filterMap_cons_none hf]
      cases hg : g a with
      | none => rwa [List.filterMap_cons_none hg]
      | some b =>
        rw [List.filterMap_cons_some hg]
        exact ih.cons b
    | some b =>
      rw [List.filterMap_cons_some hf, List.filterMap_cons_some (h a b hf)]
      exact ih.cons_cons b

/-! ## Comparing two policies -/

section Comparison

variable {p q : Policy} (h : q.Tightens p)

include h

/-- A tighter policy has the same rules with a verb that does not only take away. -/
lemma Tightens.rulesFor_eq {verb : Verb} (hverb : verb.isRestrictive = false) :
    q.rulesFor verb = p.rulesFor verb := by
  have hfilter : ∀ rules : List Rule, (rules.filter fun rule => rule.verb == verb) =
      (rules.filter fun rule => !rule.verb.isRestrictive).filter fun rule => rule.verb == verb := by
    intro rules
    rw [List.filter_filter]
    refine List.filter_congr fun rule _ => ?_
    cases heq : rule.verb == verb with
    | false => rfl
    | true => rw [eq_of_beq heq, hverb]; rfl
  rw [rulesFor_eq_filter, rulesFor_eq_filter, hfilter q.rules, hfilter p.rules, h.others]

/-- A tighter policy has the same sample. -/
lemma Tightens.sample_eq : q.sample = p.sample := by
  rw [sample, sample, h.rulesFor_eq rfl]

/-- A tighter policy rewrites values in the same way. -/
lemma Tightens.rewritten_eq (name value : String) :
    q.rewritten name value = p.rewritten name value := by
  have hverb : Verb.replace.isRestrictive = false := rfl
  have hrules := congrArg (List.filter (·.inScope name)) (h.rulesFor_eq hverb)
  simp only [rulesFor_eq_filter, List.filter_filter, Bool.and_comm] at hrules
  rw [rewritten, rewritten, hrules]

/-- What some rule of a policy does, a rule of a tighter one does. -/
lemma Tightens.any_eq_false {test : Rule → Bool} (hq : q.rules.any test = false) :
    p.rules.any test = false := by
  rw [List.any_eq_false] at hq ⊢
  exact fun rule hrule => hq rule (h.subset hrule)

/-- A message that a tighter policy does not refuse is not refused. -/
lemma Tightens.refusal?_eq_none {m : Message} (hq : q.refusal? m = none) :
    p.refusal? m = none := by
  have hrefused := refusal?_isSome q ⟨0⟩ m
  rw [hq, Option.isSome_none] at hrefused
  rw [← Option.not_isSome_iff_eq_none, refusal?_isSome p ⟨0⟩ m, h.any_eq_false hrefused.symm]
  exact Bool.false_ne_true

/-- A field that a tighter policy keeps is kept in the same form. -/
lemma Tightens.fate_eq_some {field kept : String × String} (hq : q.fate field = some kept) :
    p.fate field = some kept := by
  unfold fate at hq ⊢
  rw [h.rewritten_eq] at hq
  cases hremoved : q.rules.any (·.removes field) with
  | true => simp [hremoved] at hq
  | false =>
    rw [hremoved] at hq
    rwa [h.any_eq_false hremoved]

/-- What a tighter policy keeps of a message is a part of what is kept without its further rules. -/
lemma Tightens.apply_eq_some {draw : Draw} {m kept : Message} (hq : q.apply draw m = some kept) :
    ∃ more, p.apply draw m = some more ∧ kept.fields.Sublist more.fields := by
  obtain ⟨hrefusal, hsample, hfields, hkept⟩ := apply_eq_some_iff.mp hq
  have hsublist : kept.fields.Sublist (m.fields.filterMap p.fate) := by
    rw [← hfields]
    exact filterMap_sublist (fun _ _ => h.fate_eq_some) m.fields
  refine ⟨⟨m.fields.filterMap p.fate⟩, apply_eq_some_iff.mpr ⟨?_, ?_, rfl, ?_⟩, hsublist⟩
  · exact h.refusal?_eq_none hrefusal
  · rwa [← h.sample_eq]
  · intro hnil
    rw [show m.fields.filterMap p.fate = [] from hnil] at hsublist
    exact hkept (List.sublist_nil.mp hsublist)

end Comparison

/-- **Tightening reveals nothing.** Let a policy get one more rule that drops messages by their
fields or removes fields, at any place. If the message is still kept under a draw, then it was kept
without the rule, and what is kept is a part of what was: some of its fields, in the same order,
under the same names and with the same redacted values.

**Proof sketch.** The further rule takes no part in the sample and in the rewriting of values
(`Tightens.rulesFor_eq`), so both policies rewrite a value alike. Whether a message is refused, and
whether a field is removed, is asked of each rule on its own, so with more rules the answer can only
turn to yes (`Tightens.any_eq_false`). A part of a message that is not empty is a part of one that
is not empty. -/
theorem apply_sublist_of_insert {p q : Policy} {rule : Rule} {before after : List Rule}
    (hp : p.rules = before ++ after) (hq : q.rules = before ++ rule :: after)
    (hrule : rule.verb.isRestrictive = true) {draw : Draw} {m kept : Message}
    (hkept : q.apply draw m = some kept) :
    ∃ more, p.apply draw m = some more ∧ kept.fields.Sublist more.fields :=
  (tightens_of_insert hp hq hrule).apply_eq_some hkept

/-- A condition between a removal and a replacement takes away a field that would be redacted, and
leaves another one that is. -/
theorem apply_sublist_of_insert_condition :
    let m : Message := ⟨[("a", "x"), ("b", "xz"), ("c", "xx")]⟩
    let search (text : String) : Rule.Param := (Pattern.compile? text.toList).elim .none .pattern
    let removal : Rule := { verb := .remove, scope := Pattern.compile? "^a$".toList }
    let condition : Rule :=
      { verb := .removeIfFound, scope := Pattern.compile? "^b$".toList, param := search "z" }
    let masking : Rule :=
      { verb := .replace, scope := Pattern.compile? "^(b|c)$".toList, param := search "x"
        substitution := some ⟨['y'], ['y']⟩ }
    Policy.apply ⟨"", [removal, condition, masking]⟩ ⟨0⟩ m = some ⟨[("c", "yy")]⟩ ∧
      ∃ more, Policy.apply ⟨"", [removal, masking]⟩ ⟨0⟩ m = some more ∧
        [("c", "yy")].Sublist more.fields := by
  intro m search removal condition masking
  have hkept : Policy.apply ⟨"", [removal, condition, masking]⟩ ⟨0⟩ m = some ⟨[("c", "yy")]⟩ := by
    decide +kernel
  exact ⟨hkept, @apply_sublist_of_insert _ _ condition [removal] [masking] rfl rfl rfl _ _ _ hkept⟩

end Policy

end HttpAudit
