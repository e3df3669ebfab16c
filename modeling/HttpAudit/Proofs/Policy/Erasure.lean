import HttpAudit.Proofs.Policy.OnePass

set_option relaxedAutoImplicit false
set_option autoImplicit false

/-!
# Fields that leave no trace

A policy may remove a field only after its stop rules have looked at the message. If no rule that
drops messages is about a field, and a rule removes it by its name, then it makes no difference
whether the field is there at all: neither to what is kept of the message, nor to the reason why
nothing is.

## Main definitions

* `HttpAudit.Verb.isStop` — a rule with the verb drops messages by their fields.
* `HttpAudit.Policy.erases` — the policy is blind to fields of a name.
* `HttpAudit.Policy.visible` — a message without the fields that the policy is blind to.

## Main results

* `HttpAudit.Policy.judge_visible` — the verdict on a message is the one on its visible fields.
* `HttpAudit.Policy.apply_visible` — so is what is kept of it.
-/

namespace HttpAudit

/-- Whether a rule with the verb drops messages by their fields. -/
def Verb.isStop : Verb → Bool
  | .stop | .stopIf | .stopIfFound | .stopUnless | .stopUnlessFound => true
  | _ => false

namespace Policy

/-- Whether the policy is blind to fields of the given name: a rule removes them by their name, and
no rule that drops messages is about them. -/
def erases (p : Policy) (name : String) : Bool :=
  (p.rules.any fun rule => rule.verb == .remove && rule.inScope name) &&
    !p.rules.any fun rule => rule.verb.isStop && rule.inScope name

/-- The message without the fields that the policy is blind to. -/
def visible (p : Policy) (m : Message) : Message :=
  m.retain fun field => !p.erases field.1

end Policy

/-! ## The stages that drop a message -/

/-- Whether a field of a message passes a test does not depend on fields that fail it. -/
lemma Message.any_retain {test keep : String × String → Bool}
    (h : ∀ field, test field = true → keep field = true) (m : Message) :
    (m.retain keep).fields.any test = m.fields.any test := by
  rw [Message.retain, List.any_filter]
  congr 1
  funext field
  cases htest : test field with
  | false => exact Bool.and_false _
  | true => rw [h field htest, Bool.and_true]

namespace Policy

variable (p : Policy)

/-- Fields that a rule which drops messages is about are visible. -/
lemma not_erases_of_inScope {rule : Rule} (hrule : rule ∈ p.rules) (hverb : rule.verb.isStop = true)
    {name : String} (hscope : rule.inScope name = true) : (!p.erases name) = true := by
  have hstop : (p.rules.any fun rule => rule.verb.isStop && rule.inScope name) = true :=
    List.any_eq_true.mpr ⟨rule, hrule, by rw [hverb, hscope, Bool.true_and]⟩
  rw [erases, hstop, Bool.not_true, Bool.and_false, Bool.not_false]

/-- Fields that the policy is blind to are removed by a rule. -/
lemma any_removes_of_erases {field : String × String} (h : p.erases field.1 = true) :
    p.rules.any (·.removes field) = true := by
  obtain ⟨hremove, -⟩ := Bool.and_eq_true_iff.mp h
  obtain ⟨rule, hrule, htest⟩ := List.any_eq_true.mp hremove
  obtain ⟨hverb, hscope⟩ := Bool.and_eq_true_iff.mp htest
  refine List.any_eq_true.mpr ⟨rule, hrule, ?_⟩
  rw [Rule.removes, eq_of_beq hverb]
  exact hscope

/-- The stages that drop a message do so for its visible fields, and for the same reason. -/
lemma refusal?_visible (m : Message) : p.refusal? (p.visible m) = p.refusal? m := by
  have hseen : ∀ verb : Verb, verb.isStop = true → ∀ rule ∈ p.rulesFor verb,
      ∀ field : String × String, rule.inScope field.1 = true → (!p.erases field.1) = true := by
    intro verb hverb rule hrule field hscope
    obtain ⟨hmem, rfl⟩ := mem_rulesFor.mp hrule
    exact p.not_erases_of_inScope hmem hverb hscope
  have hconcerns : (p.rulesFor .stop).map (·.concerns (p.visible m)) =
      (p.rulesFor .stop).map (·.concerns m) := by
    refine List.map_congr_left fun rule hrule => ?_
    exact Message.any_retain (hseen .stop rfl rule hrule) m
  have hhits : ∀ verb : Verb, verb.isStop = true →
      (p.rulesFor verb).map (·.hitsAny (p.visible m)) = (p.rulesFor verb).map (·.hitsAny m) := by
    intro verb hverb
    refine List.map_congr_left fun rule hrule => Message.any_retain (fun field hhit => ?_) m
    exact hseen verb hverb rule hrule field (Bool.and_eq_true_iff.mp hhit).1
  -- each stage asks whether any or all of its rules find what they look for
  have hany : ∀ {f g : Rule → Bool} {rules : List Rule}, rules.map f = rules.map g →
      rules.any f = rules.any g ∧ rules.all f = rules.all g := by
    intro f g rules h
    have hmap : (rules.map f).any id = (rules.map g).any id ∧
        (rules.map f).all id = (rules.map g).all id := by rw [h]; exact ⟨rfl, rfl⟩
    simpa only [List.any_map, List.all_map, Function.id_comp] using hmap
  unfold refusal?
  rw [(hany hconcerns).1, (hany (hhits .stopIf rfl)).1, (hany (hhits .stopIfFound rfl)).1,
    (hany (hhits .stopUnless rfl)).2, (hany (hhits .stopUnlessFound rfl)).2]

/-! ## The stages that change a message -/

/-- The fields that are removed are those of the visible ones, and the ones that are not visible. -/
lemma remove_visible (m : Message) : p.remove (p.visible m) = p.remove m := by
  have hfields : (p.remove (p.visible m)).fields = (p.remove m).fields := by
    rw [remove_fields, remove_fields, visible, Message.retain, List.filter_filter]
    refine List.filter_congr fun field _ => ?_
    cases herased : p.erases field.1 with
    | false => rw [Bool.not_false, Bool.and_true]
    | true => rw [p.any_removes_of_erases herased, Bool.not_true, Bool.and_self]
  exact congrArg Message.mk hfields

/-- The verdict on a message is the one on its visible fields: the message is kept in the same form,
or dropped for the same reason. -/
lemma judge_visible (draw : Draw) (m : Message) : p.judge draw (p.visible m) = p.judge draw m := by
  have hreduce : p.reduce (p.visible m) = p.reduce m := by
    unfold reduce
    rw [remove_visible]
  unfold judge
  rw [refusal?_visible, hreduce]

/-- **Removed fields leave no trace.** What a policy keeps of a message under a draw is what it
keeps of the visible fields: those that no rule removes by their name, and those that a rule which
drops messages is about. So a policy tells nothing about the values of the other fields, how many
they are, or whether there are any.

**Proof sketch.** The rules that drop messages are about visible fields only, so each stage finds
the same fields (`refusal?_visible`). Afterwards the fields that are not visible are removed in any
case (`remove_visible`), before it is asked whether any field is left. -/
theorem apply_visible (draw : Draw) (m : Message) :
    p.apply draw (p.visible m) = p.apply draw m := by
  rw [apply, judge_visible, ← apply]

end Policy

end HttpAudit
