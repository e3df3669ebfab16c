import HttpAudit.Pattern.Basic
import HttpAudit.Rule.Replacement
import Mathlib.Tactic.Common

set_option relaxedAutoImplicit false
set_option autoImplicit false

/-!
# What replacements stand for

The author of a rule has one way to refer to groups, and templates have another one, with more that
has a meaning: names, braces, numbers of any length. A replacement is therefore written as a
template in which nothing has a meaning but what had one before. Here the meaning of a replacement
is said without any reference to templates, and found again in the template that it is written as.

## Main definitions

* `HttpAudit.Replacement.read` — the text that a replacement stands for.

## Main results

* `HttpAudit.Pattern.Template.parseWith_reference` — the reference to a group is read as such.
* `HttpAudit.Replacement.expand_parseWith` — what is written for a replacement is read as it is.
* `HttpAudit.Replacement.replaceAll_toTemplate` — matches are replaced by what a replacement stands
  for.
-/

namespace HttpAudit

/-! ## The meaning of a replacement -/

namespace Replacement

/-- The number with the given decimal digits, if there is a group with this index. -/
def indexOf? (groups : Nat) (digits : List Char) : Option Nat :=
  let n := Nat.ofDigitChars 10 digits 0
  if digits.all Char.isDigit && 1 ≤ n && n ≤ groups then some n else none

/-- The text that a replacement stands for, where `text` gives the texts of the groups by their
indices, with the whole match at zero. Two digits are preferred to one, and a dollar sign that names
nothing stands for itself. -/
def read (groups : Nat) (text : Nat → List Char) : List Char → List Char
  | [] => []
  | '$' :: '$' :: rest => '$' :: read groups text rest
  | '$' :: '&' :: rest => text 0 ++ read groups text rest
  | '$' :: c :: d :: rest =>
    match indexOf? groups [c, d], indexOf? groups [c] with
    | some n, _ => text n ++ read groups text rest
    | none, some n => text n ++ read groups text (d :: rest)
    | none, none => '$' :: read groups text (c :: d :: rest)
  | ['$', c] =>
    match indexOf? groups [c] with
    | some n => text n
    | none => '$' :: read groups text [c]
  | c :: rest => c :: read groups text rest

end Replacement

/-! ## Pieces of a template -/

namespace Pattern.Template

/-- The number of a group, as it is written in a template, is a reference to it. -/
lemma reference_toString (n : Nat) : reference (toString n).toList = .index n := by
  have hdigits : (toString n).toList = Nat.toDigits 10 n := by
    rw [Nat.toString_eq_repr, Nat.toList_repr]
  have hall : (Nat.toDigits 10 n).all Char.isDigit = true :=
    List.all_eq_true.mpr fun c hc => Nat.isDigit_of_mem_toDigits (by decide) (by decide) hc
  have hne : (Nat.toDigits 10 n).isEmpty = false := by simp
  have hvalue : Nat.ofDigitChars 10 (Nat.toDigits 10 n) 0 = n :=
    Nat.ofDigitChars_toDigits (by decide) (by decide)
  rw [reference, hdigits, hall, hne]
  exact congrArg TemplatePart.index hvalue

/-- A text without closing braces ends at the first one behind it. -/
lemma untilBrace_append {text : List Char} (h : '}' ∉ text) (s : List Char) :
    untilBrace (text ++ '}' :: s) = some (text, s) := by
  induction text with
  | nil => rfl
  | cons c text ih =>
    obtain ⟨hc, htext⟩ := List.ne_and_not_mem_of_not_mem_cons h
    rw [List.cons_append, untilBrace, ih htext, if_neg (by simpa using hc.symm)]
    rfl

/-- The reference to a group is read as such, whatever follows it. -/
lemma parseWith_reference (fuel n : Nat) (s : List Char) :
    parseWith (fuel + 1) (Replacement.reference n ++ s) = .index n :: parseWith fuel s := by
  have hbrace : '}' ∉ (toString n).toList := by
    rw [Nat.toString_eq_repr, Nat.toList_repr]
    intro hmem
    exact absurd (Nat.isDigit_of_mem_toDigits (by decide) (by decide) hmem) (by decide)
  have href : reference? ('{' :: ((toString n).toList ++ '}' :: s)) = some (.index n, s) := by
    simp only [reference?, untilBrace_append hbrace, Option.map_some, reference_toString]
  rw [Replacement.reference, List.append_assoc]
  show parseWith (fuel + 1) ('$' :: '{' :: ((toString n).toList ++ '}' :: s)) = _
  rw [parseWith, href]
  exact fun _ h => absurd (List.cons.inj h).1 (by decide)

/-- A character that is no dollar sign stands for itself. -/
lemma parseWith_cons {c : Char} (hc : c ≠ '$') (fuel : Nat) (s : List Char) :
    parseWith (fuel + 1) (c :: s) = .literal c :: parseWith fuel s := by
  rw [parseWith]
  · exact fun _ h => absurd h hc
  · exact hc

end Pattern.Template

/-! ## Replacements as templates -/

namespace Replacement

open Pattern

variable {groups : Nat} {text : Nat → List Char}

/-- The index that one digit is. -/
lemma indexOf?_one (c : Char) :
    indexOf? groups [c] =
      (digit? c).bind fun n => if 1 ≤ n && n ≤ groups then some n else none := by
  by_cases hc : c.isDigit = true <;> simp [indexOf?, digit?, hc, Nat.ofDigitChars]

/-- The index that two digits are. -/
lemma indexOf?_two (c d : Char) :
    indexOf? groups [c, d] =
      (digit? c).bind fun first => (digit? d).bind fun second =>
        if 1 ≤ 10 * first + second && 10 * first + second ≤ groups then
          some (10 * first + second)
        else none := by
  by_cases hc : c.isDigit = true <;> by_cases hd : d.isDigit = true <;>
    simp [indexOf?, digit?, hc, hd, Nat.ofDigitChars]

/-- A group is named by one digit at the end of a text. -/
lemma group?_one (c : Char) : group? groups [c] = (indexOf? groups [c]).map (·, []) := by
  rw [indexOf?_one]
  simp only [group?]
  cases digit? c with
  | none => rfl
  | some first =>
    simp only [Option.bind_some]
    split_ifs <;> rfl

/-- A group is named by two digits, or else by one. -/
lemma group?_two (c d : Char) (rest : List Char) :
    group? groups (c :: d :: rest) =
      ((indexOf? groups [c, d]).map (·, rest)).or ((indexOf? groups [c]).map (·, d :: rest)) := by
  rw [indexOf?_one, indexOf?_two]
  simp only [group?]
  cases digit? c with
  | none => rfl
  | some first =>
    cases digit? d with
    | none =>
      simp only [Option.bind_some, Option.bind_none]
      split_ifs <;> rfl
    | some second =>
      simp only [Option.bind_some]
      split_ifs <;> rfl

/-- The text behind the digits that name a group is shorter. -/
lemma length_lt_of_group? {rest after : List Char} {n : Nat}
    (h : group? groups rest = some (n, after)) : after.length < rest.length := by
  match rest with
  | [] => cases h
  | [c] =>
    rw [group?_one] at h
    obtain ⟨k, -, hpair⟩ := Option.map_eq_some_iff.mp h
    cases hpair
    exact Nat.zero_lt_one
  | c :: d :: rest =>
    rw [group?_two, Option.or_eq_some_iff] at h
    simp only [Option.map_eq_some_iff, Prod.mk.injEq] at h
    rcases h with ⟨_, -, -, rfl⟩ | ⟨-, _, -, -, rfl⟩ <;> simp only [List.length_cons] <;> omega

/-- Behind a dollar sign that is not followed by another one or by an ampersand, the group that
digits name is looked for. -/
lemma read_dollar {rest : List Char} (hdollar : ∀ s, rest ≠ '$' :: s)
    (hamp : ∀ s, rest ≠ '&' :: s) :
    read groups text ('$' :: rest) =
      match group? groups rest with
      | some (n, after) => text n ++ read groups text after
      | none => '$' :: read groups text rest := by
  match rest, hdollar, hamp with
  | [], _, _ => rfl
  | [c], hdollar, hamp =>
    rw [read, group?_one]
    · cases indexOf? groups [c] with
      | some n => exact (List.append_nil _).symm
      | none => rfl
    · exact fun hc => hdollar [] (by rw [hc])
    · exact fun hc => hamp [] (by rw [hc])
  | c :: d :: rest, hdollar, hamp =>
    rw [read, group?_two]
    · cases indexOf? groups [c, d] with
      | some n => rfl
      | none => cases indexOf? groups [c] <;> rfl
    · exact fun hc => hdollar (d :: rest) (by rw [hc])
    · exact fun hc => hamp (d :: rest) (by rw [hc])

/-- A character that is no dollar sign stands for itself. -/
lemma read_cons {c : Char} (hc : c ≠ '$') (rest : List Char) :
    read groups text (c :: rest) = c :: read groups text rest := by
  rw [read] <;> intros <;> contradiction

/-- What is written for a group is not empty. -/
lemma length_reference_pos (n : Nat) : 0 < (reference n).length := Nat.succ_pos _

/-- What is written for a replacement is read, piece by piece, as the replacement is.

**Proof sketch.** Induction along the translation. No piece that is written ends in a dollar sign
that is not escaped, so each is read on its own, whatever follows it. As no piece is empty, there is
fuel to read it. -/
lemma expand_parseWith (byName : List Char → List Char) {m n : Nat} {w : List Char}
    (hm : w.length ≤ m) (hn : (templateWith groups m w).length ≤ n) :
    Template.expand text byName (Template.parseWith n (templateWith groups m w)) =
      read groups text w := by
  fun_induction templateWith groups m w generalizing n with
  | case1 w =>
    obtain rfl := List.eq_nil_of_length_eq_zero (Nat.le_zero.mp hm)
    cases n <;> rfl
  | case2 m h => cases n <;> rfl
  | case3 m rest ih =>
    -- two dollar signs
    simp only [List.length_cons] at hm hn
    obtain ⟨n, rfl⟩ : ∃ k, n = k + 1 := ⟨n - 1, by omega⟩
    rw [read, ← ih (n := n) (by omega) (by omega)]
    rfl
  | case4 m rest ih =>
    -- the whole match
    have hpos := length_reference_pos 0
    simp only [List.length_cons, List.length_append] at hm hn
    obtain ⟨n, rfl⟩ : ∃ k, n = k + 1 := ⟨n - 1, by omega⟩
    rw [read, ← ih (n := n) (by omega) (by omega), Template.parseWith_reference, Template.expand]
  | case5 m rest hdollar hamp k after hgroup ih =>
    -- a group
    have hpos := length_reference_pos k
    have hshorter := length_lt_of_group? hgroup
    simp only [List.length_cons, List.length_append] at hm hn
    obtain ⟨n, rfl⟩ : ∃ k, n = k + 1 := ⟨n - 1, by omega⟩
    rw [read_dollar hdollar hamp, hgroup, Template.parseWith_reference, Template.expand,
      ih (by omega) (by omega)]
  | case6 m rest hdollar hamp hgroup ih =>
    -- a dollar sign that names no group
    simp only [List.length_cons] at hm hn
    obtain ⟨n, rfl⟩ : ∃ k, n = k + 1 := ⟨n - 1, by omega⟩
    rw [read_dollar hdollar hamp, hgroup, Template.parseWith, Template.expand,
      ih (by omega) (by omega)]
  | case7 m c rest _ _ hc ih =>
    simp only [List.length_cons] at hm hn
    obtain ⟨n, rfl⟩ : ∃ k, n = k + 1 := ⟨n - 1, by omega⟩
    rw [read_cons hc, Template.parseWith_cons hc, Template.expand, ih (by omega) (by omega)]

/-- **Replacements stand for what their author has in mind.** The template that a replacement is
written as stands for the text that the replacement is read as, from left to right: two dollar signs
for one, a dollar sign with an ampersand for the whole match, a dollar sign with two digits, or else
with one, for the group with this index if there is such a group, and anything else for itself. So
the matches of a pattern are replaced by what the replacement is read as for the groups of each
match, where a group that took no part has an empty text.

**Proof sketch.** Each piece of the template is read on its own (`expand_parseWith`). -/
theorem replaceAll_toTemplate (w : List Char) :
    (∀ (groups : Nat) (text : Nat → List Char) (byName : List Char → List Char),
      (Template.parse (toTemplate groups w)).expand text byName = read groups text w) ∧
    ∀ (p : Pattern) (s : List Char),
      p.replaceAll (Template.parse (toTemplate p.groups w)) s =
        substitute (fun m here => read p.groups (m.groupText here) w) s 0 (p.findAll s) := by
  have hread (groups : Nat) (text : Nat → List Char) (byName : List Char → List Char) :
      (Template.parse (toTemplate groups w)).expand text byName = read groups text w :=
    expand_parseWith byName (Nat.le_refl _) (Nat.le_refl _)
  refine ⟨hread, fun p s => ?_⟩
  have hexpand : p.expandAt (Template.parse (toTemplate p.groups w)) =
      fun m here => read p.groups (m.groupText here) w := by
    funext m here
    exact hread p.groups (m.groupText here) _
  rw [replaceAll, hexpand]

/-- Braces, names, the number zero and numbers that are too large are no references. -/
example : (Template.parse (toTemplate 1 "${1}$a$0$12$3$$1$&$".toList)).expand
    (fun n => if n = 0 then "whole".toList else "one".toList) (fun _ => []) =
      "${1}$a$0one2$3$1whole$".toList := by
  decide +kernel

end Replacement

end HttpAudit
