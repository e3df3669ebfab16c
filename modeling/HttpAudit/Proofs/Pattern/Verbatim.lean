import HttpAudit.Proofs.Pattern.Prefix
import HttpAudit.Proofs.Pattern.Repetition

set_option relaxedAutoImplicit false
set_option autoImplicit false

/-!
# Texts within patterns

A row of plain characters in a pattern matches the text that they are. With an anchor at one end it
is found in the texts that start or end with it, and without anchors wherever it occurs. An anchor
at the end of one of several choices says nothing of the others.

## Main definitions

* `HttpAudit.Pattern.Syntax.plain` — the characters of a text as parts of a pattern.
* `HttpAudit.Pattern.Node.FoundIn` — a pattern matches a stretch of a text.

## Main results

* `HttpAudit.Pattern.spans_plain_append_iff` — a match of a row of characters and of what follows.
* `HttpAudit.Pattern.foundIn_plain_iff`, `HttpAudit.Pattern.foundIn_start_iff`,
  `HttpAudit.Pattern.foundIn_plain_end_iff` — where such a row is found.
* `HttpAudit.Pattern.fits_choice_iff` — two rows to choose from in front of another one.
-/

namespace HttpAudit.Pattern

/-- The characters of a text as parts of a pattern. -/
def Syntax.plain (w : List Char) : List Syntax := w.map fun c => .chars (.single c)

/-! ## Matches -/

/-- A choice matches what either of the patterns does. -/
lemma spans_alt_iff {a b : Node} {p q : Place} :
    Spans (.alt a b) p q ↔ Spans a p q ∨ Spans b p q := by
  constructor
  · intro h
    cases h with
    | left h => exact .inl h
    | right h => exact .inr h
  · rintro (h | h)
    · exact .left h
    · exact .right h

/-- A group matches what its body does. -/
lemma spans_group_iff {index : Nat} {body : Node} {p q : Place} :
    Spans (.group index body) p q ↔ Spans body p q := by
  refine ⟨fun h => ?_, .group⟩
  cases h with
  | group h => exact h

/-- A sequence matches what its first part does, and its other parts behind that. -/
lemma spans_sequence_cons_iff {a : Syntax} {rest : List Syntax} {p q : Place} :
    Spans (Syntax.sequence (a :: rest)).node p q ↔
      ∃ m, Spans a.node p m ∧ Spans (Syntax.sequence rest).node m q := by
  cases rest with
  | nil =>
    refine ⟨fun h => ⟨q, h, .empty q⟩, ?_⟩
    rintro ⟨m, h, hempty⟩
    cases hempty
    exact h
  | cons b rest =>
    constructor
    · intro h
      cases h with
      | cat ha hb => exact ⟨_, ha, hb⟩
    · rintro ⟨m, ha, hb⟩
      exact .cat ha hb

/-- Of two sequences one behind the other, the second one matches behind what the first one does. -/
lemma spans_sequence_append_iff {as bs : List Syntax} {p q : Place} :
    Spans (Syntax.sequence (as ++ bs)).node p q ↔
      ∃ m, Spans (Syntax.sequence as).node p m ∧ Spans (Syntax.sequence bs).node m q := by
  induction as generalizing p with
  | nil =>
    constructor
    · exact fun h => ⟨p, .empty p, h⟩
    · rintro ⟨m, hempty, h⟩
      cases hempty
      exact h
  | cons a as ih =>
    rw [List.cons_append, spans_sequence_cons_iff]
    simp only [ih, spans_sequence_cons_iff]
    constructor
    · rintro ⟨m, ha, n, has, hbs⟩
      exact ⟨n, ⟨m, ha, has⟩, hbs⟩
    · rintro ⟨n, ⟨m, ha, has⟩, hbs⟩
      exact ⟨m, ha, n, has, hbs⟩

/-- A choice among several patterns matches what one of them does. -/
lemma spans_choice_iff {as : List Syntax} (has : as ≠ []) {p q : Place} :
    Spans (Syntax.choice as).node p q ↔ ∃ a ∈ as, Spans a.node p q := by
  induction as with
  | nil => exact absurd rfl has
  | cons a as ih =>
    cases as with
    | nil => simp [Syntax.choice]
    | cons b as =>
      have halt : Spans (Syntax.choice (a :: b :: as)).node p q ↔
          Spans a.node p q ∨ Spans (Syntax.choice (b :: as)).node p q := spans_alt_iff
      rw [halt, ih (List.cons_ne_nil b as)]
      simp only [List.mem_cons, exists_eq_or_imp]

/-- A row of characters matches the text that they are, and what follows matches behind that. -/
lemma spans_plain_append_iff {w : List Char} {rest : List Syntax} {p q : Place} :
    Spans (Syntax.sequence (Syntax.plain w ++ rest)).node p q ↔
      ∃ t, p.rest = w ++ t ∧ Spans (Syntax.sequence rest).node ⟨w.reverse ++ p.before, t⟩ q := by
  induction w generalizing p with
  | nil => simp [Syntax.plain]
  | cons d w ih =>
    show Spans (Syntax.sequence (.chars (.single d) :: (Syntax.plain w ++ rest))).node p q ↔ _
    simp only [spans_sequence_cons_iff, Syntax.node, spans_chars_iff, contains_single,
      beq_iff_eq, ih]
    constructor
    · rintro ⟨m, ⟨c, s, hrest, rfl, rfl⟩, t, hs, h⟩
      obtain rfl : s = w ++ t := hs
      exact ⟨t, hrest, by simpa using h⟩
    · rintro ⟨t, hrest, h⟩
      exact ⟨⟨d :: p.before, w ++ t⟩, ⟨d, w ++ t, hrest, rfl, rfl⟩, t, rfl, by simpa using h⟩

/-- A row of characters matches the text that they are. -/
lemma spans_plain_iff {w : List Char} {p q : Place} :
    Spans (Syntax.sequence (Syntax.plain w)).node p q ↔
      ∃ t, p.rest = w ++ t ∧ q = ⟨w.reverse ++ p.before, t⟩ := by
  have happend := @spans_plain_append_iff w [] p q
  rw [List.append_nil] at happend
  rw [happend]
  refine exists_congr fun t => and_congr_right fun _ => ⟨fun h => ?_, ?_⟩
  · cases h
    rfl
  · rintro rfl
    exact .empty _

/-! ## Where patterns are found -/

/-- The pattern matches a stretch of the text. -/
def Node.FoundIn (node : Node) (s : List Char) : Prop :=
  ∃ w t q, s = w ++ t ∧ Spans node ⟨w.reverse, t⟩ q

/-- A choice is found where either of the patterns is. -/
lemma foundIn_alt_iff {a b : Node} {s : List Char} :
    (Node.alt a b).FoundIn s ↔ a.FoundIn s ∨ b.FoundIn s := by
  simp only [Node.FoundIn, spans_alt_iff, and_or_left, exists_or]

/-- A row of characters is found in the texts in which it occurs. -/
lemma foundIn_plain_iff {w s : List Char} :
    (Syntax.sequence (Syntax.plain w)).node.FoundIn s ↔ w <:+: s := by
  simp only [Node.FoundIn, spans_plain_iff]
  constructor
  · rintro ⟨u, _, _, rfl, t, rfl, -⟩
    exact ⟨u, t, List.append_assoc ..⟩
  · rintro ⟨u, t, rfl⟩
    exact ⟨u, w ++ t, _, List.append_assoc .., t, rfl, rfl⟩

/-- With an anchor at its start, a sequence is found in the texts that it matches from their start
on. -/
lemma foundIn_start_iff {rest : List Syntax} {s : List Char} :
    (Syntax.sequence (.assert .startText :: rest)).node.FoundIn s ↔
      (Syntax.sequence rest).node.Fits ⟨[], s⟩ := by
  simp only [Node.FoundIn, Node.Fits, spans_sequence_cons_iff, Syntax.node]
  constructor
  · rintro ⟨w, t, q, rfl, m, hstart, h⟩
    cases hstart with
    | assert hstart =>
      obtain rfl : w = [] := by simpa [Assertion.holds] using hstart
      exact ⟨q, h⟩
  · rintro ⟨q, h⟩
    exact ⟨[], s, q, rfl, ⟨[], s⟩, .assert rfl, h⟩

/-- A row of characters matches from the start of the texts on that start with it. -/
lemma fits_plain_iff {w s : List Char} :
    (Syntax.sequence (Syntax.plain w)).node.Fits ⟨[], s⟩ ↔ w <+: s := by
  simp only [Node.Fits, spans_plain_iff]
  constructor
  · rintro ⟨_, t, rfl, -⟩
    exact ⟨t, rfl⟩
  · rintro ⟨t, rfl⟩
    exact ⟨_, t, rfl, rfl⟩

/-- A choice between two rows of characters in front of another row matches from the start of the
texts on that start with one of the two and the other. -/
lemma fits_choice_iff {index : Nat} {a b w s : List Char} :
    (Syntax.sequence (.group index (.alt (Syntax.sequence (Syntax.plain a))
        (Syntax.sequence (Syntax.plain b))) :: Syntax.plain w)).node.Fits ⟨[], s⟩ ↔
      a ++ w <+: s ∨ b ++ w <+: s := by
  simp only [Node.Fits, spans_sequence_cons_iff, Syntax.node, spans_group_iff, spans_alt_iff,
    spans_plain_iff]
  constructor
  · rintro ⟨_, _, ⟨t, rfl, rfl⟩ | ⟨t, rfl, rfl⟩, u, hu, -⟩
    · exact .inl ⟨u, by rw [List.append_assoc]; exact congrArg (a ++ ·) hu.symm⟩
    · exact .inr ⟨u, by rw [List.append_assoc]; exact congrArg (b ++ ·) hu.symm⟩
  · rintro (⟨u, rfl⟩ | ⟨u, rfl⟩)
    · exact ⟨_, _, .inl ⟨w ++ u, List.append_assoc .., rfl⟩, u, rfl, rfl⟩
    · exact ⟨_, _, .inr ⟨w ++ u, List.append_assoc .., rfl⟩, u, rfl, rfl⟩

/-- With an anchor at its end, a row of characters is found in the texts that end with it. -/
lemma foundIn_plain_end_iff {w s : List Char} :
    (Syntax.sequence (Syntax.plain w ++ [.assert .endText])).node.FoundIn s ↔ w <:+ s := by
  simp only [Node.FoundIn, spans_plain_append_iff]
  constructor
  · rintro ⟨u, _, q, rfl, t, rfl, h⟩
    cases h with
    | assert hend =>
      obtain rfl : t = [] := by simpa [Assertion.holds] using hend
      exact ⟨u, by rw [List.append_nil]⟩
  · rintro ⟨u, rfl⟩
    exact ⟨u, w, _, rfl, [], (List.append_nil w).symm, .assert rfl⟩

end HttpAudit.Pattern
