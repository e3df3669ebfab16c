import HttpAudit.Proofs.Policy.Index

set_option relaxedAutoImplicit false
set_option autoImplicit false

/-!
# The form of compiled rules

A verb decides which parts a rule has: a scope, a pattern, a percentage, a replacement. Every rule
that is read from a line has exactly the parts that its verb asks for, and a policy that is
compiled from a text has one sample rule at most.

## Main definitions

* `HttpAudit.Sentence.verb`, `HttpAudit.Sentence.form` — the verb and the form of a sentence.
* `HttpAudit.Rule.HasForm` — a rule has the parts that its verb asks for.
* `HttpAudit.Policy.WellFormed` — all rules of a policy do, and at most one is a sample rule.

## Main results

* `HttpAudit.Rule.hasForm_of_parse` — rules that are read from a line have their form.
* `HttpAudit.Policy.wellFormed_of_ofText` — policies that are compiled are well-formed.
-/

namespace HttpAudit

/-! ## Sentences -/

namespace Sentence

/-- The verb of a sentence. -/
def verb : Sentence → Verb
  | bare v | key v _ | scope v _ | condition v _ _ | substitution v _ _ _ | percentage v _ => v

/-- What a sentence consists of besides its verb. -/
def form : Sentence → Verb.Form
  | bare _ => .bare
  | key _ _ => .key
  | scope _ _ => .scope
  | condition _ _ _ => .condition
  | substitution _ _ _ _ => .substitution
  | percentage _ _ => .percentage

/-- The literals of a sentence, or its digits. -/
def texts : Sentence → List (List Char)
  | bare _ => []
  | key _ text | scope _ text | percentage _ text => [text]
  | condition _ name value => [name, value]
  | substitution _ name find replacement => [name, find, replacement]

/-- The sentence of a verb with some literals has this verb, is of its form, and has them. -/
lemma ofTexts?_eq_some_iff {v : Verb} {texts : List (List Char)} {s : Sentence} :
    ofTexts? v texts = some s ↔ s.verb = v ∧ s.form = v.form ∧ s.texts = texts := by
  unfold ofTexts?
  constructor
  · intro h
    split at h <;> cases h
    all_goals exact ⟨rfl, by simp only [form, *], rfl⟩
  · rintro ⟨rfl, hform, rfl⟩
    cases s <;> simp only [form, verb] at hform <;> simp [verb, texts, ← hform]

/-- A line that is compared with a verb gives a sentence with this verb and of its form. -/
lemma verb_form_of_ofVerb? {v : Verb} {line : List Char} {s : Sentence}
    (h : ofVerb? v line = some s) : s.verb = v ∧ s.form = v.form := by
  obtain ⟨texts, -, htexts⟩ := Option.bind_eq_some_iff.mp h
  obtain ⟨hverb, hform, -⟩ := ofTexts?_eq_some_iff.mp htexts
  exact ⟨hverb, hform⟩

/-- The sentence that a line is has the form of its verb. -/
lemma form_of_ofLine? {line : List Char} {s : Sentence} (h : ofLine? line = some s) :
    s.form = s.verb.form := by
  obtain ⟨v, -, hv⟩ := List.exists_of_findSome?_eq_some h
  obtain ⟨rfl, hform⟩ := verb_form_of_ofVerb? hv
  exact hform

end Sentence

/-! ## Rules -/

namespace Rule

/-- A rule has the parts that its verb asks for, and no others. -/
def HasForm (rule : Rule) : Prop :=
  match rule.verb.form with
  | .bare => rule.scope = none ∧ rule.param = .none ∧ rule.substitution = none
  | .key => rule.scope = none ∧ (∃ p, rule.param = .pattern p) ∧ rule.substitution = none
  | .scope => (∃ p, rule.scope = some p) ∧ rule.param = .none ∧ rule.substitution = none
  | .condition =>
    (∃ p, rule.scope = some p) ∧ (∃ p, rule.param = .pattern p) ∧ rule.substitution = none
  | .substitution =>
    (∃ p, rule.scope = some p) ∧ ∃ p written, rule.param = .pattern p ∧
      rule.substitution = some ⟨written, Replacement.toTemplate p.groups written⟩
  | .percentage =>
    rule.scope = none ∧ (∃ n, rule.param = .percent n ∧ 1 ≤ n ∧ n ≤ 99) ∧
      rule.substitution = none

end Rule

/-- A percentage that is accepted is between one and ninety-nine. -/
lemma percent?_bounds {digits : List Char} {n : Nat} (h : percent? digits = some n) :
    1 ≤ n ∧ n ≤ 99 := by
  simp only [percent?, Bool.and_eq_true, decide_eq_true_eq, Option.ite_none_right_eq_some,
    Option.some.injEq] at h
  obtain ⟨hbounds, rfl⟩ := h
  exact hbounds

/-- A computation with two stages succeeds if both do. -/
lemma bind_eq_ok_iff {ε α β : Type} {x : Except ε α} {f : α → Except ε β} {b : β} :
    (x >>= f) = .ok b ↔ ∃ a, x = .ok a ∧ f a = .ok b := by
  cases x <;> simp [bind, Except.bind]

/-- What a sentence stands for has the verb of the sentence, and its form if the sentence has the
form of the verb. -/
lemma Sentence.hasForm_of_compile {line : List Char} {s : Sentence} {rule : Rule}
    (hs : s.form = s.verb.form) (h : s.compile line = .ok rule) :
    rule.verb = s.verb ∧ rule.HasForm := by
  cases s <;> simp only [form, verb] at hs <;>
    simp only [compile, bind_eq_ok_iff, Except.ok.injEq] at h
  case bare v =>
    subst h
    exact ⟨rfl, by simp [Rule.HasForm, ← hs]⟩
  case key v text =>
    obtain ⟨p, -, rfl⟩ := h
    exact ⟨rfl, by simp [Rule.HasForm, ← hs]⟩
  case scope v text =>
    obtain ⟨p, -, rfl⟩ := h
    exact ⟨rfl, by simp [Rule.HasForm, ← hs]⟩
  case condition v name value =>
    obtain ⟨p, -, h⟩ := h
    split at h <;> obtain ⟨q, -, hq⟩ := bind_eq_ok_iff.mp h <;> cases hq <;>
      exact ⟨rfl, by simp [Rule.HasForm, ← hs]⟩
  case substitution v name find replacement =>
    obtain ⟨p, -, q, -, written, -, rfl⟩ := h
    exact ⟨rfl, by simp [Rule.HasForm, ← hs]⟩
  case percentage v digits =>
    cases hn : percent? digits with
    | none => simp [hn] at h
    | some n =>
      simp only [hn, Except.ok.injEq] at h
      subst h
      exact ⟨rfl, by simpa [Rule.HasForm, ← hs] using percent?_bounds hn⟩

namespace Rule

/-- A line with a rule is no blank line and no comment, and the rule is what its sentence stands
for. -/
lemma parse_eq_some_iff {line : List Char} {rule : Rule} :
    parse line = .ok (some rule) ↔
      Part.isTail line = false ∧
        ∃ s, Sentence.ofLine? line = some s ∧ s.compile line = .ok rule := by
  unfold parse
  cases Part.isTail line <;> cases Sentence.ofLine? line with
  | none => simp
  | some s => cases hs : s.compile line <;> simp [Except.map, hs]

/-- Rules that are read from a line have their form. -/
lemma hasForm_of_parse {line : List Char} {rule : Rule} (h : parse line = .ok (some rule)) :
    rule.HasForm := by
  obtain ⟨-, s, hs, hrule⟩ := parse_eq_some_iff.mp h
  exact (Sentence.hasForm_of_compile (Sentence.form_of_ofLine? hs) hrule).2

/-- Each of the rules that are read from some lines is read from one of the lines. -/
lemma exists_parse_of_parseLines {lines : List (List Char)} {rules : List Rule}
    (h : parseLines lines = .ok rules) {rule : Rule} (hrule : rule ∈ rules) :
    ∃ line ∈ lines, parse line = .ok (some rule) := by
  induction lines generalizing rules with
  | nil =>
    obtain rfl : [] = rules := Except.ok.inj h
    cases hrule
  | cons line rest ih =>
    simp only [parseLines, bind, Except.bind] at h
    cases hl : parse line with
    | error e => simp [hl] at h
    | ok first =>
      cases hr : parseLines rest with
      | error e => simp [hl, hr] at h
      | ok others =>
        simp only [hl, hr, Except.ok.injEq] at h
        subst h
        rcases List.mem_append.mp hrule with hm | hm
        · exact ⟨line, List.mem_cons_self, by rw [hl, Option.mem_toList.mp hm]⟩
        · obtain ⟨other, hmem, hother⟩ := ih hr hm
          exact ⟨other, List.mem_cons_of_mem _ hmem, hother⟩

end Rule

/-! ## Policies -/

namespace Policy

/-- A policy whose rules have their form, and of which at most one is a sample rule. -/
structure WellFormed (p : Policy) : Prop where
  /-- The rules have the parts that their verbs ask for. -/
  hasForm : ∀ rule ∈ p.rules, rule.HasForm
  /-- There is no second sample rule. -/
  sample_le_one : (p.rulesFor .sample).length ≤ 1

/-- A text is compiled if its lines are and there is no second sample rule. -/
lemma ofText_eq_ok_iff {text : String} {p : Policy} :
    ofText text = .ok p ↔
      p.text = text ∧ Rule.parseAll (Include.expand text.toList) = .ok p.rules ∧
        (p.rulesFor .sample).length ≤ 1 := by
  obtain ⟨text', rules'⟩ := p
  unfold ofText
  cases hr : Rule.parseAll (Include.expand text.toList) with
  | error e => simp [bind, Except.bind]
  | ok rules =>
    simp only [bind, Except.bind, Except.ok.injEq]
    constructor
    · intro h
      split at h
      · cases h
      · next hle => cases h; exact ⟨rfl, rfl, by omega⟩
    · rintro ⟨rfl, rfl, hle⟩
      rw [if_neg (by omega)]

/-- Policies that are compiled from a text are well-formed. -/
lemma wellFormed_of_ofText {text : String} {p : Policy} (h : ofText text = .ok p) :
    p.WellFormed := by
  obtain ⟨-, hrules, hsample⟩ := ofText_eq_ok_iff.mp h
  refine ⟨fun rule hrule => ?_, hsample⟩
  obtain ⟨line, -, hline⟩ := Rule.exists_parse_of_parseLines hrules hrule
  exact Rule.hasForm_of_parse hline

/-- The rules with a verb are rules of the policy. -/
@[simp] lemma mem_rulesFor {p : Policy} {verb : Verb} {rule : Rule} :
    rule ∈ p.rulesFor verb ↔ rule ∈ p.rules ∧ rule.verb = verb := by
  simp [rulesFor_eq_filter]

/-- A well-formed policy keeps the share of messages that its sample rule names, and all if it has
none. -/
lemma WellFormed.sample_eq_some_iff {p : Policy} (h : p.WellFormed) {n : Nat} :
    p.sample = some n ↔ ∃ rule ∈ p.rules, rule.verb = .sample ∧ rule.param = .percent n := by
  have hmem : ∀ rule, rule ∈ p.rulesFor .sample ↔ rule ∈ p.rules ∧ rule.verb = .sample :=
    fun rule => mem_rulesFor
  have hlen := h.sample_le_one
  unfold sample
  cases hs : p.rulesFor .sample with
  | nil =>
    simp only [hs, List.not_mem_nil, false_iff, not_and] at hmem
    simp only [List.head?_nil, Option.bind_none, reduceCtorEq, false_iff, not_exists, not_and]
    intro rule hrule hverb
    exact absurd hverb (hmem rule hrule)
  | cons first more =>
    obtain rfl : more = [] := by
      rw [hs] at hlen
      exact List.length_eq_zero_iff.mp (by simpa using hlen)
    simp only [hs, List.mem_singleton] at hmem
    obtain ⟨hfirst, hverb⟩ := (hmem first).mp rfl
    obtain ⟨-, ⟨k, hk, -⟩, -⟩ := by simpa [Rule.HasForm, hverb] using h.hasForm first hfirst
    simp only [List.head?_cons, Option.bind_some]
    constructor
    · intro hn
      refine ⟨first, hfirst, hverb, ?_⟩
      simpa [hk, Rule.Param.percent?] using hn
    · rintro ⟨rule, hrule, hv, hparam⟩
      obtain rfl := (hmem rule).mpr ⟨hrule, hv⟩
      simp [hparam, Rule.Param.percent?]

end Policy

end HttpAudit
