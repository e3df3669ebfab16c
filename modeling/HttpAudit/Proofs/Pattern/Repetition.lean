import HttpAudit.Proofs.Pattern.Spans

set_option relaxedAutoImplicit false
set_option autoImplicit false

/-!
# Repetitions of a class

The repetition of a class of characters matches any text of its characters. If it is greedy and what
follows accepts the place behind all of them, then it takes all of them.

## Main definitions

* `HttpAudit.Pattern.Place.past` — the place behind the characters of a class.

## Main results

* `HttpAudit.Pattern.spans_plus_chars_iff`, `HttpAudit.Pattern.spans_star_chars_iff` — what the
  repetitions of a class match.
* `HttpAudit.Pattern.run_plus_chars`, `HttpAudit.Pattern.run_star_chars` — what the greedy ones
  prefer.
-/

namespace HttpAudit.Pattern

/-! ## All matches -/

/-- The class of a character has this character alone. -/
lemma contains_single (c d : Char) : (CharClass.single d).contains c.toNat = (c == d) := by
  rw [Bool.eq_iff_iff]
  simp only [CharClass.single, CharClass.contains, Bool.and_eq_true, decide_eq_true_eq, beq_iff_eq]
  constructor
  · intro h
    exact Char.toNat_inj.mp (Nat.le_antisymm h.2 h.1)
  · rintro rfl
    exact ⟨Nat.le_refl _, Nat.le_refl _⟩

/-- A match of a class is one of its characters. -/
lemma spans_chars_iff {cls : CharClass} {p q : Place} :
    Spans (.chars cls) p q ↔
      ∃ c t, p.rest = c :: t ∧ cls.contains c.toNat = true ∧ q = ⟨c :: p.before, t⟩ := by
  constructor
  · intro h
    cases h with
    | chars hc => exact ⟨_, _, rfl, hc, rfl⟩
  · rintro ⟨c, t, hrest, hc, rfl⟩
    obtain ⟨before, rest⟩ := p
    obtain rfl : rest = c :: t := hrest
    exact .chars hc

/-- A match of a repeated class is a text that is not empty and consists of its characters. -/
lemma spans_plus_chars_iff {greedy : Bool} {cls : CharClass} {p q : Place} :
    Spans (.plus greedy (.chars cls)) p q ↔
      ∃ w t, w ≠ [] ∧ p.rest = w ++ t ∧ (∀ c ∈ w, cls.contains c.toNat = true) ∧
        q = ⟨w.reverse ++ p.before, t⟩ := by
  constructor
  · intro h
    generalize hnode : Node.plus greedy (.chars cls) = node at h
    induction h with
    | once h =>
      cases hnode
      obtain ⟨c, t, hrest, hc, rfl⟩ := spans_chars_iff.mp h
      exact ⟨[c], t, by simp, hrest, by simpa using hc, rfl⟩
    | more h _ _ ih =>
      cases hnode
      obtain ⟨c, t, hrest, hc, rfl⟩ := spans_chars_iff.mp h
      obtain ⟨w, t', -, hrest', hw, rfl⟩ := ih rfl
      refine ⟨c :: w, t', by simp, ?_, by simpa [hc] using hw, by simp⟩
      rw [hrest, List.cons_append, ← hrest']
    | _ => cases hnode
  · rintro ⟨w, t, hne, hrest, hw, rfl⟩
    induction w generalizing p with
    | nil => exact absurd rfl hne
    | cons c w ih =>
      have hone : Spans (.chars cls) p ⟨c :: p.before, w ++ t⟩ :=
        spans_chars_iff.mpr ⟨c, _, hrest, hw c (by simp), rfl⟩
      by_cases hnil : w = []
      · subst hnil
        exact .once hone
      · have hmore := ih (p := ⟨c :: p.before, w ++ t⟩) hnil rfl fun d hd => hw d (by simp [hd])
        simpa using Spans.more hone hmore

/-- A match of a class that is repeated or left out is a text of its characters. -/
lemma spans_star_chars_iff {greedy : Bool} {cls : CharClass} {p q : Place} :
    Spans (.alt (.plus greedy (.chars cls)) .empty) p q ↔
      ∃ w t, p.rest = w ++ t ∧ (∀ c ∈ w, cls.contains c.toNat = true) ∧
        q = ⟨w.reverse ++ p.before, t⟩ := by
  constructor
  · intro h
    cases h with
    | left h =>
      obtain ⟨w, t, -, h⟩ := spans_plus_chars_iff.mp h
      exact ⟨w, t, h⟩
    | right h =>
      cases h
      exact ⟨[], p.rest, rfl, by simp, rfl⟩
  · rintro ⟨w, t, hrest, hw, rfl⟩
    by_cases hnil : w = []
    · subst hnil
      obtain ⟨before, rest⟩ := p
      obtain rfl : rest = t := hrest
      exact .right (.empty _)
    · exact .left (spans_plus_chars_iff.mpr ⟨w, t, hnil, hrest, hw, rfl⟩)

/-! ## Preferred matches -/

/-- The place behind all characters of the class that come next. -/
def Place.past (p : Place) (cls : CharClass) : Place :=
  ⟨(p.rest.takeWhile fun c => cls.contains c.toNat).reverse ++ p.before,
    p.rest.dropWhile fun c => cls.contains c.toNat⟩

/-- Behind a character of the class the place behind all of them is the same. -/
lemma Place.past_cons {cls : CharClass} {before rest : List Char} {c : Char}
    (hc : cls.contains c.toNat = true) :
    (⟨before, c :: rest⟩ : Place).past cls = (⟨c :: before, rest⟩ : Place).past cls := by
  simp [past, hc]

/-- Before a character outside of the class there is nothing to pass. -/
lemma Place.past_cons_of_not {cls : CharClass} {before rest : List Char} {c : Char}
    (hc : ¬cls.contains c.toNat = true) :
    (⟨before, c :: rest⟩ : Place).past cls = ⟨before, c :: rest⟩ := by
  simp [past, hc]

section Greedy

variable {cls : CharClass} {k : Cont} {p : Place}

/-- A class matches the next character if it is one of its characters. -/
lemma run_chars_cons {before rest : List Char} {c : Char} :
    (Node.chars cls).run k ⟨before, c :: rest⟩ =
      if cls.contains c.toNat then k ⟨c :: before, rest⟩ else none := rfl

/-- Greedy rounds of a class take all of its characters. -/
lemma follow_chars (hk : (k (p.past cls)).isSome) :
    follow (Node.chars cls).run true k p = k (p.past cls) := by
  obtain ⟨before, rest⟩ := p
  induction rest generalizing before with
  | nil =>
    rw [follow]
    simp [Node.run, Place.past]
  | cons c rest ih =>
    rw [follow]
    by_cases hc : cls.contains c.toNat = true
    · rw [Place.past_cons hc] at hk ⊢
      have hagain : (Node.chars cls).run (fun q => if _ : q.rest.length < (c :: rest).length then
            follow (Node.chars cls).run true k q else none) ⟨before, c :: rest⟩ =
          k ((⟨c :: before, rest⟩ : Place).past cls) := by
        rw [run_chars_cons, if_pos hc]
        exact (dif_pos (Nat.lt_succ_self rest.length)).trans (ih _ hk)
      simp only [if_true]
      rw [hagain, Option.or_of_isSome hk]
    · rw [Place.past_cons_of_not hc]
      simp [Node.run, hc]

/-- A greedy repetition of a class takes all of its characters, of which there must be one. -/
lemma run_plus_chars (hk : (k (p.past cls)).isSome) :
    (Node.plus true (.chars cls)).run k p =
      if p.rest.head?.any fun c => cls.contains c.toNat then k (p.past cls) else none := by
  obtain ⟨before, rest⟩ := p
  cases rest with
  | nil => simp [Node.run]
  | cons c rest =>
    by_cases hc : cls.contains c.toNat = true
    · rw [Place.past_cons hc] at hk ⊢
      have hne : (⟨c :: before, rest⟩ : Place) ≠ ⟨before, c :: rest⟩ := (Place.Reaches.refl _).ne
      rw [Node.run, run_chars_cons, if_pos hc, if_neg hne, follow_chars hk]
      simp [hc]
    · rw [Node.run, run_chars_cons, if_neg hc]
      simp [hc]

/-- A greedy repetition of a class that can be left out takes all of its characters. -/
lemma run_star_chars (hk : (k (p.past cls)).isSome) :
    (Node.alt (.plus true (.chars cls)) .empty).run k p = k (p.past cls) := by
  rw [Node.run, run_plus_chars hk, Node.run]
  split_ifs with h
  · exact Option.or_of_isSome hk
  · have hpast : p.past cls = p := by
      obtain ⟨before, rest⟩ := p
      cases rest with
      | nil => rfl
      | cons c rest => exact Place.past_cons_of_not (by simpa using h)
    rw [hpast, Option.none_or]

end Greedy

end HttpAudit.Pattern
