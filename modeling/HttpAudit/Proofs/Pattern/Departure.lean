import HttpAudit.Proofs.Pattern.Verbatim
import Mathlib.Data.List.Basic

set_option relaxedAutoImplicit false
set_option autoImplicit false

/-!
# Ways to depart from a word

A pattern cannot say that a word does not follow, but it can list all ways to depart from the word:
behind each of its starts, the text ends or goes on with another character than the word. The list
is made by recursion on the word, and its members together match the texts that do not start with
it.

## Main definitions

* `HttpAudit.Pattern.Syntax.Exhausts` — a pattern matches all of what follows.
* `HttpAudit.Pattern.Syntax.departures` — the ways to depart from a word.

## Main results

* `HttpAudit.Pattern.exhausts_departures_iff` — the ways to depart from a word match what does not
  start with it.
-/

namespace HttpAudit.Pattern

namespace Syntax

/-- Any characters of a line. -/
def dots : Syntax := .loop 0 none true (.chars (.compl (.single '\n')))

/-- A character outside the class, and any others of a line. -/
def other (cls : CharClass) : Syntax := .sequence [.chars (.compl cls), dots]

/-- The text `done`, behind which the text ends or goes on with a character outside the class. If
nothing is done yet, then it goes on. -/
def departure (index : Nat) (done : List Char) (cls : CharClass) : Syntax :=
  if done = [] then other cls
  else .sequence (plain done ++ [.loop 0 (some 1) true (.group index (other cls))])

/-- The ways to depart from a word behind the text `done`. -/
def departures (index : Nat) (done : List Char) : List Char → List Syntax
  | [] => []
  | c :: w => departure index done (.single c) :: departures (index + 1) (done ++ [c]) w

/-- The pattern matches all of the text `s`, with `before` the text before it. -/
def Exhausts (a : Syntax) (before s : List Char) : Prop :=
  Spans a.node ⟨before, s⟩ ⟨s.reverse ++ before, []⟩

end Syntax

open Syntax

variable {a : Syntax} {index : Nat} {before s w : List Char}

/-- Behind a row of characters, the rest of the sequence matches all of what follows. -/
lemma exhausts_plain_append_iff {rest : List Syntax} :
    (Syntax.sequence (plain w ++ rest)).Exhausts before s ↔
      ∃ t, s = w ++ t ∧ (Syntax.sequence rest).Exhausts (w.reverse ++ before) t := by
  rw [Exhausts, spans_plain_append_iff]
  refine exists_congr fun t => and_congr_right fun hs => ?_
  obtain rfl : s = w ++ t := hs
  rw [Exhausts, List.reverse_append, List.append_assoc]

/-- A row of characters matches all of the text that it is. -/
lemma exhausts_plain_iff : (Syntax.sequence (plain w)).Exhausts before s ↔ s = w := by
  have happend := @exhausts_plain_append_iff before s w []
  rw [List.append_nil] at happend
  rw [happend]
  constructor
  · rintro ⟨t, rfl, h⟩
    have hnil : t = [] := by
      unfold Exhausts at h
      generalize hq : (⟨t.reverse ++ (w.reverse ++ before), []⟩ : Place) = q at h
      cases h
      exact (Place.mk.inj hq).2.symm
    rw [hnil, List.append_nil]
  · rintro rfl
    exact ⟨[], (List.append_nil s).symm, .empty _⟩

/-- One of several patterns matches. -/
lemma exhausts_choice_iff {as : List Syntax} (has : as ≠ []) :
    (Syntax.choice as).Exhausts before s ↔ ∃ a ∈ as, a.Exhausts before s :=
  spans_choice_iff has

/-- A group that may be left out matches nothing, or what its body does. -/
lemma exhausts_optional_iff :
    (Syntax.loop 0 (some 1) true (.group index a)).Exhausts before s ↔
      s = [] ∨ a.Exhausts before s := by
  have halt : (Syntax.loop 0 (some 1) true (.group index a)).node =
      .alt (.group index a.node) .empty := rfl
  rw [Exhausts, halt, spans_alt_iff, spans_group_iff, or_comm]
  refine or_congr_left ⟨fun h => ?_, ?_⟩
  · generalize hq : (⟨s.reverse ++ before, []⟩ : Place) = q at h
    cases h
    exact (Place.mk.inj hq).2.symm
  · rintro rfl
    exact .empty _

/-- Behind a row of characters there may be a group with several patterns to choose from. -/
lemma exhausts_optional_choice_iff {as : List Syntax} (has : as ≠ []) :
    (Syntax.sequence (plain w ++ [.loop 0 (some 1) true (.group index (.choice as))])).Exhausts
        before s ↔
      ∃ t, s = w ++ t ∧ (t = [] ∨ ∃ a ∈ as, a.Exhausts (w.reverse ++ before) t) := by
  rw [exhausts_plain_append_iff]
  simp only [Syntax.sequence, exhausts_optional_iff, exhausts_choice_iff has]

/-- Any characters of a line match what has no line feed. -/
lemma exhausts_dots_iff : dots.Exhausts before s ↔ '\n' ∉ s := by
  have hnode : dots.node = .alt (.plus true (.chars (.compl (.single '\n')))) .empty := rfl
  have hclass (c : Char) : (CharClass.compl (.single '\n')).contains c.toNat = (c != '\n') := by
    simp only [CharClass.contains, contains_single, bne]
  rw [Exhausts, hnode, spans_star_chars_iff]
  constructor
  · rintro ⟨w, t, hs, hw, hend⟩
    obtain rfl : t = [] := (Place.mk.inj hend).2.symm
    obtain rfl : s = w := by simpa using hs
    intro hmem
    have hdot := hw _ hmem
    rw [hclass] at hdot
    simp at hdot
  · intro h
    refine ⟨s, [], by simp, fun c hc => ?_, rfl⟩
    rw [hclass, bne_iff_ne]
    rintro rfl
    exact h hc

variable (hs : '\n' ∉ s)

include hs

/-- On a line, a character outside the class and any others match what starts outside the class. -/
lemma exhausts_other_iff {cls : CharClass} :
    (other cls).Exhausts before s ↔ ∃ c ∈ s.head?, cls.contains c.toNat = false := by
  have hnode : (other cls).node = .cat (.chars (.compl cls)) dots.node := rfl
  have hcat : (other cls).Exhausts before s ↔
      ∃ m, Spans (.chars (.compl cls)) ⟨before, s⟩ m ∧
        Spans dots.node m ⟨s.reverse ++ before, []⟩ := by
    rw [Exhausts, hnode]
    constructor
    · rintro (_ | _ | _ | _ | ⟨ha, hb⟩)
      exact ⟨_, ha, hb⟩
    · rintro ⟨m, ha, hb⟩
      exact .cat ha hb
  simp only [hcat, spans_chars_iff]
  constructor
  · rintro ⟨_, ⟨c, t, rfl, hc, rfl⟩, -⟩
    exact ⟨c, rfl, by simpa [CharClass.contains] using hc⟩
  · rintro ⟨c, hc, hout⟩
    obtain ⟨t, rfl⟩ := List.head?_eq_some_iff.mp hc
    refine ⟨_, ⟨c, t, rfl, by simpa [CharClass.contains] using hout, rfl⟩, ?_⟩
    have hdots : dots.Exhausts (c :: before) t :=
      exhausts_dots_iff.mpr fun ht => hs (List.mem_cons_of_mem c ht)
    simpa [Exhausts] using hdots

/-- On a line, a departure matches what starts with the text `done` and does not go on within the
class. -/
lemma exhausts_departure_iff {done : List Char} {cls : CharClass} :
    (departure index done cls).Exhausts before s ↔
      done <+: s ∧ s ≠ [] ∧ ∀ c : Char, cls.contains c.toNat = true → ¬done ++ [c] <+: s := by
  rw [departure]
  split_ifs with hdone
  · subst hdone
    rw [exhausts_other_iff hs]
    cases s with
    | nil => simp
    | cons d t =>
      have hfirst : ∀ c : Char, [] ++ [c] <+: d :: t ↔ c = d := fun c => by simp
      simp only [List.head?_cons, Option.mem_def, Option.some.injEq, exists_eq_left', hfirst]
      refine ⟨fun hout => ⟨List.nil_prefix, List.cons_ne_nil d t, fun c hc => ?_⟩, fun h => ?_⟩
      · rintro rfl
        rw [hc] at hout
        cases hout
      · by_contra hd
        exact h.2.2 d (by simpa using hd) rfl
  · rw [exhausts_plain_append_iff]
    constructor
    · rintro ⟨t, rfl, h⟩
      have ht : '\n' ∉ t := fun hmem => hs (List.mem_append_right done hmem)
      rw [Syntax.sequence, exhausts_optional_iff, exhausts_other_iff ht] at h
      refine ⟨List.prefix_append done t, by simp [hdone], fun c hc hprefix => ?_⟩
      obtain ⟨u, rfl⟩ := (List.prefix_append_right_inj done).mp hprefix
      simp [hc] at h
    · rintro ⟨⟨t, rfl⟩, -, hout⟩
      have ht : '\n' ∉ t := fun hmem => hs (List.mem_append_right done hmem)
      refine ⟨t, rfl, ?_⟩
      rw [Syntax.sequence, exhausts_optional_iff, exhausts_other_iff ht]
      cases t with
      | nil => exact .inl rfl
      | cons c t =>
        refine .inr ⟨c, rfl, ?_⟩
        by_contra hc
        exact hout c (by simpa using hc) ⟨t, by simp⟩

/-- The ways to depart from a word match the texts of a line that start with the text before the
word and not with both.

**Proof sketch.** Induction on the word. The first way is taken by what does not go on with the
first character of the word, and the others by what goes on with it, but not with the rest. -/
lemma exhausts_departures_iff {done : List Char} :
    (∃ a ∈ departures index done w, a.Exhausts before s) ↔
      done <+: s ∧ s ≠ [] ∧ ¬done ++ w <+: s := by
  induction w generalizing index done with
  | nil =>
    rw [List.append_nil]
    simp only [departures, List.not_mem_nil, false_and, exists_false]
    tauto
  | cons c w ih =>
    have hout : (∀ d : Char, (CharClass.single c).contains d.toNat = true → ¬done ++ [d] <+: s) ↔
        ¬done ++ [c] <+: s := by
      simp only [contains_single, beq_iff_eq, forall_eq]
    have hword : done ++ [c] ++ w = done ++ c :: w := by simp
    have hstart : done ++ [c] <+: s → done <+: s := (List.prefix_append done [c]).trans
    have hmore : done ++ c :: w <+: s → done ++ [c] <+: s := by
      rw [← hword]
      exact (List.prefix_append _ w).trans
    rw [departures, List.exists_mem_cons_iff, exhausts_departure_iff hs, ih, hout, hword]
    tauto

end HttpAudit.Pattern
