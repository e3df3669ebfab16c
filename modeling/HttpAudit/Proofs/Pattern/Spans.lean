import HttpAudit.Pattern.Basic
import HttpAudit.Proofs.Pattern.Run

set_option relaxedAutoImplicit false
set_option autoImplicit false

/-!
# What patterns match

Whether a pattern matches does not depend on what it prefers. Here the stretches of a text that a
pattern matches are described without an order among them, and a match is found by the search if and
only if there is one.

## Main definitions

* `HttpAudit.Pattern.Spans` — a pattern matches the text between two places.
* `HttpAudit.Pattern.Node.Leads` — a match leads to where the continuation goes on.

## Main results

* `HttpAudit.Pattern.leads_of_run` — a preferred match is a match.
* `HttpAudit.Pattern.run_isSome_iff` — there is a preferred match if there is any.
* `HttpAudit.Pattern.isMatch_iff` — a pattern that is found in a text matches a stretch of it.
-/

namespace HttpAudit.Pattern

/-- The pattern matches the text between the two places. -/
inductive Spans : Node → Place → Place → Prop where
  /-- The empty text. -/
  | empty (p : Place) : Spans .empty p p
  /-- A character of the class. -/
  | chars {cls : CharClass} {before rest : List Char} {c : Char}
      (h : cls.contains c.toNat = true) :
      Spans (.chars cls) ⟨before, c :: rest⟩ ⟨c :: before, rest⟩
  /-- A place with the property. -/
  | assert {assertion : Assertion} {p : Place}
      (h : assertion.holds p.before.head? p.rest.head? = true) : Spans (.assert assertion) p p
  /-- What the body of a group matches. -/
  | group {index : Nat} {body : Node} {p q : Place} (h : Spans body p q) :
      Spans (.group index body) p q
  /-- What both patterns match, one behind the other. -/
  | cat {a b : Node} {p q r : Place} (ha : Spans a p q) (hb : Spans b q r) : Spans (.cat a b) p r
  /-- What the first pattern matches. -/
  | left {a b : Node} {p q : Place} (h : Spans a p q) : Spans (.alt a b) p q
  /-- What the second pattern matches. -/
  | right {a b : Node} {p q : Place} (h : Spans b p q) : Spans (.alt a b) p q
  /-- One round. -/
  | once {greedy : Bool} {body : Node} {p q : Place} (h : Spans body p q) :
      Spans (.plus greedy body) p q
  /-- One round, and others behind it. -/
  | more {greedy : Bool} {body : Node} {p q r : Place} (h : Spans body p q)
      (hmore : Spans (.plus greedy body) q r) : Spans (.plus greedy body) p r

/-- The place where a match ends is reached from the one where it starts. -/
lemma Spans.reaches {node : Node} {p q : Place} (h : Spans node p q) : p.Reaches q := by
  induction h with
  | empty p => exact .refl p
  | chars h => exact .inr (by simp)
  | assert h => exact .refl _
  | group _ ih | left _ ih | right _ ih | once _ ih => exact ih
  | cat _ _ iha ihb => exact iha.trans ihb
  | more _ _ ih ihmore => exact ih.trans ihmore

/-- A round of a repetition that comes back to its start can be left out. -/
lemma Spans.exists_round {greedy : Bool} {body : Node} {p r : Place}
    (h : Spans (.plus greedy body) p r) :
    Spans body p r ∨ ∃ q, q ≠ p ∧ Spans body p q ∧ Spans (.plus greedy body) q r := by
  generalize hnode : Node.plus greedy body = node at h
  induction h with
  | once h =>
    cases hnode
    exact .inl h
  | @more _ _ p q r h hmore _ ihmore =>
    cases hnode
    by_cases hq : q = p
    · subst hq
      exact ihmore rfl
    · exact .inr ⟨q, hq, h, hmore⟩
  | _ => cases hnode

/-! ## A preferred match is a match -/

/-- A match of the pattern leads to a place at which the continuation finds something that ends
where `f` does. -/
def Node.Leads (node : Node) (k : Cont) (p : Place) (f : Found) : Prop :=
  ∃ q g, Spans node p q ∧ k q = some g ∧ f.stop = g.stop

section Repetition

variable {body : Node} {greedy : Bool} {k : Cont}
  (ih : ∀ {k : Cont} {p : Place} {f : Found}, body.run k p = some f → body.Leads k p f)

include ih in
/-- Behind a round, other rounds or none lead to the continuation. -/
lemma leads_of_follow {p : Place} {f : Found} (h : follow body.run greedy k p = some f) :
    (∃ g, k p = some g ∧ f.stop = g.stop) ∨ (Node.plus greedy body).Leads k p f := by
  induction hn : p.rest.length using Nat.strongRecOn generalizing p f with
  | ind n ihn =>
    have hagain (hf : body.run (fun q => if _ : q.rest.length < p.rest.length then
          follow body.run greedy k q else none) p = some f) :
        (Node.plus greedy body).Leads k p f := by
      obtain ⟨q, g, hspans, hg, hstop⟩ := ih hf
      by_cases hlt : q.rest.length < p.rest.length
      · simp only [hlt, dif_pos] at hg
        rcases ihn _ (hn ▸ hlt) hg rfl with ⟨g', hk, hstop'⟩ | ⟨r, g', hmore, hk, hstop'⟩
        · exact ⟨q, g', .once hspans, hk, hstop.trans hstop'⟩
        · exact ⟨r, g', .more hspans hmore, hk, hstop.trans hstop'⟩
      · simp [hlt] at hg
    rw [follow] at h
    cases greedy with
    | true =>
      rcases Option.or_eq_some_iff.mp h with h | ⟨-, h⟩
      · exact .inr (hagain h)
      · exact .inl ⟨f, h, rfl⟩
    | false =>
      rcases Option.or_eq_some_iff.mp h with h | ⟨-, h⟩
      · exact .inl ⟨f, h, rfl⟩
      · exact .inr (hagain h)

end Repetition

/-- A preferred match is a match, and it ends where the continuation ends from there. -/
lemma leads_of_run {node : Node} {k : Cont} {p : Place} {f : Found} (h : node.run k p = some f) :
    node.Leads k p f := by
  induction node generalizing k p f with
  | empty => exact ⟨p, f, .empty p, h, rfl⟩
  | chars cls =>
    obtain ⟨before, rest⟩ := p
    cases rest with
    | nil => cases h
    | cons c rest =>
      by_cases hc : cls.contains c.toNat = true
      · exact ⟨⟨c :: before, rest⟩, f, .chars hc, by simpa [Node.run, hc] using h, rfl⟩
      · simp [Node.run, hc] at h
  | assert assertion =>
    rw [Node.run] at h
    split_ifs at h with hassert
    exact ⟨p, f, .assert hassert, h, rfl⟩
  | group index body ih =>
    obtain ⟨f', hf', rfl⟩ := Option.map_eq_some_iff.mp h
    obtain ⟨q, g, hspans, hg, hstop⟩ := ih hf'
    obtain ⟨g', hk, rfl⟩ := Option.map_eq_some_iff.mp hg
    exact ⟨q, g', .group hspans, hk, hstop⟩
  | cat a b iha ihb =>
    obtain ⟨q, g, ha, hg, hstop⟩ := iha h
    obtain ⟨r, g', hb, hk, hstop'⟩ := ihb hg
    exact ⟨r, g', .cat ha hb, hk, hstop.trans hstop'⟩
  | alt a b iha ihb =>
    rcases Option.or_eq_some_iff.mp h with h | ⟨-, h⟩
    · obtain ⟨q, g, hspans, hk, hstop⟩ := iha h
      exact ⟨q, g, .left hspans, hk, hstop⟩
    · obtain ⟨q, g, hspans, hk, hstop⟩ := ihb h
      exact ⟨q, g, .right hspans, hk, hstop⟩
  | plus greedy body ih =>
    obtain ⟨q, g, hone, hg, hstop⟩ := ih h
    by_cases hq : q = p
    · subst hq
      exact ⟨q, g, .once hone, by simpa using hg, hstop⟩
    · replace hg : follow body.run greedy k q = some g := by simpa [hq] using hg
      rcases leads_of_follow ih hg with ⟨g', hk, hstop'⟩ | ⟨r, g', hmore, hk, hstop'⟩
      · exact ⟨q, g', .once hone, hk, hstop.trans hstop'⟩
      · exact ⟨r, g', .more hone hmore, hk, hstop.trans hstop'⟩

/-! ## Where there is a match, one is preferred -/

section Repetition

variable {body : Node} {greedy : Bool} {k : Cont}
  (ih : ∀ {k : Cont} {p q : Place}, Spans body p q → (k q).isSome → (body.run k p).isSome)

include ih in
/-- Behind a round something is preferred if the continuation goes on there or behind further
rounds. -/
lemma follow_isSome {p : Place}
    (h : (k p).isSome ∨ ∃ q, Spans (.plus greedy body) p q ∧ (k q).isSome) :
    (follow body.run greedy k p).isSome := by
  induction hn : p.rest.length using Nat.strongRecOn generalizing p with
  | ind n ihn =>
    have hagain {q : Place} (hspans : Spans body p q) (hq : q ≠ p)
        (hfollow : (follow body.run greedy k q).isSome) : (body.run (fun q =>
          if _ : q.rest.length < p.rest.length then follow body.run greedy k q else none)
          p).isSome := by
      refine ih hspans ?_
      rw [dif_pos (hspans.reaches.resolve_left hq)]
      exact hfollow
    have heither : (k p).isSome ∨ ∃ q, q ≠ p ∧ Spans body p q ∧
        (follow body.run greedy k q).isSome := by
      rcases h with hk | ⟨r, hspans, hk⟩
      · exact .inl hk
      · rcases hspans.exists_round with hone | ⟨q, hq, hone, hmore⟩
        · by_cases hr : r = p
          · exact .inl (hr ▸ hk)
          · have hlt := hone.reaches.resolve_left hr
            exact .inr ⟨r, hr, hone, ihn _ (hn ▸ hlt) (.inl hk) rfl⟩
        · have hlt := hone.reaches.resolve_left hq
          exact .inr ⟨q, hq, hone, ihn _ (hn ▸ hlt) (.inr ⟨r, hmore, hk⟩) rfl⟩
    rw [follow]
    rcases heither with hk | ⟨q, hq, hspans, hfollow⟩
    · cases greedy <;> simp [Option.isSome_or, hk]
    · have hsome := hagain hspans hq hfollow
      cases greedy with
      | false => simp only [Bool.false_eq_true, if_false, Option.isSome_or, hsome, Bool.or_true]
      | true => simp only [if_true, Option.isSome_or, hsome, Bool.true_or]

end Repetition

/-- Where the pattern matches and the continuation goes on, something is preferred. -/
lemma run_isSome {node : Node} {k : Cont} {p q : Place} (h : Spans node p q)
    (hk : (k q).isSome) : (node.run k p).isSome := by
  induction node generalizing k p q with
  | empty =>
    cases h
    exact hk
  | chars cls =>
    cases h with
    | chars hc => simpa [Node.run, hc] using hk
  | assert assertion =>
    cases h with
    | assert hassert => simpa [Node.run, hassert] using hk
  | group index body ih =>
    cases h with
    | group h =>
      rw [Node.run, Option.isSome_map]
      exact ih h (by rw [Option.isSome_map]; exact hk)
  | cat a b iha ihb =>
    cases h with
    | cat ha hb => exact iha ha (ihb hb hk)
  | alt a b iha ihb =>
    rw [Node.run, Option.isSome_or, Bool.or_eq_true]
    cases h with
    | left h => exact .inl (iha h hk)
    | right h => exact .inr (ihb h hk)
  | plus greedy body ih =>
    rw [Node.run]
    rcases h.exists_round with hone | ⟨r, hr, hone, hmore⟩
    · refine ih hone ?_
      by_cases hq : q = p
      · rw [if_pos hq, ← hq]
        exact hk
      · rw [if_neg hq]
        exact follow_isSome ih (.inl hk)
    · refine ih hone ?_
      rw [if_neg hr]
      exact follow_isSome ih (.inr ⟨q, hmore, hk⟩)

/-- There is a preferred match if there is any. -/
lemma run_isSome_iff {node : Node} {k : Cont} {p : Place} :
    (node.run k p).isSome ↔ ∃ q, Spans node p q ∧ (k q).isSome := by
  constructor
  · intro h
    obtain ⟨f, hf⟩ := Option.isSome_iff_exists.mp h
    obtain ⟨q, g, hspans, hg, -⟩ := leads_of_run hf
    exact ⟨q, hspans, by rw [hg]; rfl⟩
  · rintro ⟨q, hspans, hk⟩
    exact run_isSome hspans hk

/-- A pattern that is found in a text matches a stretch of it. -/
lemma isMatch_iff {p : Pattern} {s : List Char} :
    p.isMatch s = true ↔ ∃ w t q, s = w ++ t ∧ Spans p.node ⟨w.reverse, t⟩ q := by
  unfold isMatch
  rw [scan_eq, List.any_map, List.any_eq_true]
  constructor
  · rintro ⟨r, hr, hfound⟩
    obtain ⟨w, t, hs, rfl⟩ := Place.mem_onward.mp hr
    obtain ⟨q, hspans, -⟩ := run_isSome_iff.mp hfound
    exact ⟨w, t, q, hs, by simpa using hspans⟩
  · rintro ⟨w, t, q, hs, hspans⟩
    refine ⟨⟨w.reverse, t⟩, Place.mem_onward.mpr ⟨w, t, hs, by simp⟩, ?_⟩
    exact run_isSome_iff.mpr ⟨q, hspans, rfl⟩

end HttpAudit.Pattern
