import HttpAudit.Policy.Apply
import HttpAudit.Proofs.Rule.Form

set_option relaxedAutoImplicit false
set_option autoImplicit false

/-!
# Applying a policy in one pass

A policy is applied in stages, each of which runs over the whole message for each of its rules.
Here the same is said in one pass: a message is refused by a rule alone, and what becomes of a
field depends on the rules and this field alone.

## Main definitions

* `HttpAudit.Rule.refuses` — a rule drops a message whatever the other rules say.
* `HttpAudit.Rule.removes` — a rule removes a field whatever the other rules say.
* `HttpAudit.Policy.rewritten` — the value of a field after all replacements.
* `HttpAudit.Policy.fate` — what becomes of a field.
* `HttpAudit.Policy.applyOnce` — what a policy keeps of a message, in one pass.

## Main results

* `HttpAudit.Policy.WellFormed.apply_eq_ite` — the stages that drop a message, in one pass.
* `HttpAudit.Policy.remove_fields`, `HttpAudit.Policy.redact_fields` — the stages that change a
  message, in one pass.
* `HttpAudit.Policy.apply_eq_applyOnce` — a compiled policy does what the single pass does.
-/

namespace HttpAudit

/-! ## The single pass -/

namespace Rule

/-- Whether the rule alone drops the message: a stop rule by the name of a field, a condition by a
field that it hits, or by the lack of one, and a sample rule by the draw. -/
def refuses (rule : Rule) (draw : Draw) (m : Message) : Bool :=
  match rule.verb with
  | .stop => m.fields.any fun field => rule.inScope field.1
  | .stopIf | .stopIfFound =>
    m.fields.any fun field => rule.inScope field.1 && rule.valueMatches field.2
  | .stopUnless | .stopUnlessFound =>
    m.fields.all fun field => !(rule.inScope field.1 && rule.valueMatches field.2)
  | .sample => rule.param.percent?.any fun n => !draw.isBelow n
  | _ => false

/-- Whether the rule alone removes the field, by its name or by the value that it has at first. -/
def removes (rule : Rule) (field : String × String) : Bool :=
  match rule.verb with
  | .remove => rule.inScope field.1
  | .removeIf | .removeIfFound => rule.inScope field.1 && rule.valueMatches field.2
  | .removeUnless | .removeUnlessFound => rule.inScope field.1 && !rule.valueMatches field.2
  | _ => false

end Rule

namespace Policy

/-- The value of a field after the replacements of all rules about it, in order. -/
def rewritten (p : Policy) (name value : String) : String :=
  (p.rules.filter fun rule => rule.verb == .replace && rule.inScope name).foldl
    (fun value rule => rule.substitute value) value

/-- What becomes of a field: it may be removed, or be left without a value. -/
def fate (p : Policy) (field : String × String) : Option (String × String) :=
  if p.rules.any (·.removes field) then none
  else
    let value := p.rewritten field.1 field.2
    if value.isEmpty then none else some (field.1, value)

/-- What the policy keeps of a message, if anything, found field by field. -/
def applyOnce (p : Policy) (draw : Draw) (m : Message) : Option Message :=
  if p.rules.any (·.refuses draw m) then none
  else
    let fields := m.fields.filterMap p.fate
    if fields.isEmpty then none else some ⟨fields⟩

/-! ## The stages that drop a message -/

/-- Two tests of which one is passed somewhere in a list, put together into one test. -/
lemma any_or_any {α : Type} (l : List α) (f g : α → Bool) :
    (l.any f || l.any g) = l.any fun a => f a || g a := by
  induction l with
  | nil => rfl
  | cons a l ih => simp only [List.any_cons, ← ih]; ac_rfl

/-- The stages that drop a message before it is sampled do so if one of the rules does, where the
sample rules are left aside. -/
lemma refusal?_isSome (p : Policy) (draw : Draw) (m : Message) :
    (p.refusal? m).isSome =
      p.rules.any fun rule => rule.verb != .sample && rule.refuses draw m := by
  have hstages : (p.refusal? m).isSome =
      ((p.rulesFor .stop).any (·.concerns m) || (p.rulesFor .stopIf).any (·.hitsAny m) ||
        (p.rulesFor .stopIfFound).any (·.hitsAny m) ||
        (p.rulesFor .stopUnless).any (fun rule => !rule.hitsAny m) ||
        (p.rulesFor .stopUnlessFound).any fun rule => !rule.hitsAny m) := by
    unfold refusal?
    simp only [← List.not_all_eq_any_not]
    split_ifs <;> simp_all
  rw [hstages]
  simp only [rulesFor_eq_filter, List.any_filter, any_or_any]
  congr 1
  funext rule
  -- each verb leaves one disjunct at most
  unfold Rule.refuses Rule.concerns Rule.hitsAny Rule.hits
  cases rule.verb <;> simp [beq_eq_decide, bne, List.not_any_eq_all_not]

/-- In a well-formed policy the sample stage drops a message if a sample rule does. -/
lemma WellFormed.sample_any {p : Policy} (h : p.WellFormed) (draw : Draw) (m : Message) :
    (p.sample.any fun n => !draw.isBelow n) =
      p.rules.any fun rule => rule.verb == .sample && rule.refuses draw m := by
  rw [Bool.eq_iff_iff, Option.any_eq_true, List.any_eq_true]
  constructor
  · rintro ⟨n, hn, hdraw⟩
    obtain ⟨rule, hrule, hverb, hparam⟩ := h.sample_eq_some_iff.mp hn
    exact ⟨rule, hrule, by simpa [hverb, Rule.refuses, hparam, Rule.Param.percent?] using hdraw⟩
  · rintro ⟨rule, hrule, hrefuses⟩
    simp only [Bool.and_eq_true, beq_iff_eq] at hrefuses
    obtain ⟨hverb, hrefuses⟩ := hrefuses
    obtain ⟨-, ⟨n, hn, -⟩, -⟩ := by simpa [Rule.HasForm, hverb] using h.hasForm rule hrule
    refine ⟨n, h.sample_eq_some_iff.mpr ⟨rule, hrule, hverb, hn⟩, ?_⟩
    simpa [Rule.refuses, hverb, hn, Rule.Param.percent?] using hrefuses

/-- A message is reduced unless one of the rules drops it. -/
lemma WellFormed.apply_eq_ite {p : Policy} (h : p.WellFormed) (draw : Draw) (m : Message) :
    p.apply draw m =
      if p.rules.any (·.refuses draw m) then none else (p.reduce m).message? := by
  have hsplit : p.rules.any (·.refuses draw m) =
      ((p.refusal? m).isSome || p.sample.any fun n => !draw.isBelow n) := by
    rw [refusal?_isSome p draw m, h.sample_any draw m, any_or_any]
    congr 1
    funext rule
    cases hverb : rule.verb == .sample <;> simp [bne, hverb]
  rw [hsplit]
  unfold apply judge
  cases p.refusal? m with
  | some reason => rfl
  | none =>
    cases p.sample with
    | none => rfl
    | some n => cases hn : draw.isBelow n <;> simp [hn, Verdict.message?]

/-! ## The stages that change a message -/

/-- Rules that remove fields one after the other leave the fields that pass the tests of all. -/
lemma removeBy_fields (test : Rule → String × String → Bool) (rules : List Rule) (m : Message) :
    (removeBy test rules m).fields = m.fields.filter fun field => rules.all (test · field) := by
  unfold removeBy
  induction rules generalizing m with
  | nil => exact (List.filter_eq_self.mpr fun _ _ => rfl).symm
  | cons rule rules ih =>
    rw [List.foldl_cons, ih]
    simp only [Message.retain, List.filter_filter, List.all_cons, Bool.and_comm]

/-- The stages that remove fields leave the fields that no rule removes. -/
lemma remove_fields (p : Policy) (m : Message) :
    (p.remove m).fields = m.fields.filter fun field => !p.rules.any (·.removes field) := by
  simp only [remove, removeBy_fields, List.filter_filter, rulesFor_eq_filter]
  congr 1
  funext field
  rw [← Bool.not_eq_eq_eq_not]
  simp only [Bool.not_and, List.not_all_eq_any_not, List.any_filter, any_or_any]
  congr 1
  funext rule
  unfold Rule.removes
  cases rule.verb <;> simp [beq_eq_decide]

/-- Rules that replace parts of values one after the other leave the names as they are and fold
over each value. -/
lemma redact_fields (p : Policy) (m : Message) :
    (p.redact m).fields = m.fields.map fun field => (field.1, p.rewritten field.1 field.2) := by
  have hfold : ∀ (rules : List Rule) (m : Message),
      (rules.foldl (fun m rule => rule.redact m) m).fields = m.fields.map fun field =>
        (field.1, (rules.filter (·.inScope field.1)).foldl
          (fun value rule => rule.substitute value) field.2) := by
    intro rules
    induction rules with
    | nil => intro m; simp
    | cons rule rules ih =>
      intro m
      rw [List.foldl_cons, ih, Rule.redact, List.map_map]
      refine List.map_congr_left fun field _ => ?_
      by_cases hscope : rule.inScope field.1 <;> simp [hscope]
  rw [redact, hfold]
  simp only [rewritten, rulesFor_eq_filter, List.filter_filter, Bool.and_comm]

/-- What is left of the fields after all stages is found field by field. -/
lemma filterMap_fate (p : Policy) (m : Message) :
    m.fields.filterMap p.fate =
      ((p.redact (p.remove m)).retain fun field => !field.2.isEmpty).fields := by
  simp only [Message.retain, redact_fields, remove_fields]
  induction m.fields with
  | nil => rfl
  | cons field fields ih =>
    by_cases hremoved : p.rules.any (·.removes field)
    · simpa [fate, hremoved] using ih
    · by_cases hempty : (p.rewritten field.1 field.2).isEmpty <;>
        simpa [fate, hremoved, hempty] using ih

/-- A message that is not dropped before is reduced to the fields that are left, and dropped if
none are. The check between the stages is implied by the one after them. -/
lemma reduce_message? (p : Policy) (m : Message) :
    (p.reduce m).message? =
      if (m.fields.filterMap p.fate).isEmpty then none else some ⟨m.fields.filterMap p.fate⟩ := by
  rw [filterMap_fate]
  unfold reduce
  by_cases hremoved : (p.remove m).isEmpty
  · have hnil : (p.remove m).fields = [] := by simpa [Message.isEmpty] using hremoved
    simp [hremoved, Message.retain, redact_fields, hnil, Verdict.message?]
  · simp only [hremoved]
    unfold Message.isEmpty
    by_cases hleft : ((p.redact (p.remove m)).retain fun field => !field.2.isEmpty).fields.isEmpty
    · simp only [hleft, if_true]
      rfl
    · simp only [hleft]
      rfl

/-- A well-formed policy does what the single pass does. -/
lemma WellFormed.apply_eq {p : Policy} (h : p.WellFormed) (draw : Draw) (m : Message) :
    p.apply draw m = p.applyOnce draw m := by
  rw [h.apply_eq_ite, reduce_message?]
  rfl

/-- **One pass suffices.** A policy that is compiled from a text keeps of every message, under
every draw, what the single pass keeps: nothing if a rule drops the message, and else the fields
that no rule removes, in order and under their names, with the values that all replacements
together leave; fields without a value are left out, and nothing is kept if no field is.

**Proof sketch.** Each stage is a loop over the rules of one verb; the tests of a loop, and then
those of the stages, are put together into one test of each rule in turn
(`WellFormed.apply_eq_ite`, `remove_fields`). Replacing leaves names as they are, so the rules
about a field stay the same while its value is folded over (`redact_fields`). -/
theorem apply_eq_applyOnce {text : String} {p : Policy} (h : ofText text = .ok p) (draw : Draw)
    (m : Message) : p.apply draw m = p.applyOnce draw m :=
  (wellFormed_of_ofText h).apply_eq draw m

/-- A policy with a removal, a replacement, a stop rule and a sample rule, at a message that loses
one field by its name and another one by its value. -/
theorem apply_eq_applyOnce_sampled :
    ∃ p, ofText "/a/ remove\n/b/ replace /x/, /y/\n/c/ stop\nsample 50" = .ok p ∧
      p.apply ⟨0⟩ ⟨[("a", "x"), ("b", "xzx"), ("d", "")]⟩ =
        p.applyOnce ⟨0⟩ ⟨[("a", "x"), ("b", "xzx"), ("d", "")]⟩ ∧
      p.applyOnce ⟨0⟩ ⟨[("a", "x"), ("b", "xzx"), ("d", "")]⟩ = some ⟨[("b", "yzy")]⟩ := by
  have hkept : (ofText "/a/ remove\n/b/ replace /x/, /y/\n/c/ stop\nsample 50").toOption.map
      (·.applyOnce ⟨0⟩ ⟨[("a", "x"), ("b", "xzx"), ("d", "")]⟩) = some (some ⟨[("b", "yzy")]⟩) := by
    decide +kernel
  cases h : ofText "/a/ remove\n/b/ replace /x/, /y/\n/c/ stop\nsample 50" with
  | error e => simp [h, Except.toOption] at hkept
  | ok p => exact ⟨p, rfl, apply_eq_applyOnce h _ _, by simpa [h, Except.toOption] using hkept⟩

end Policy

end HttpAudit
