import HttpAudit.Proofs.Rule.Form
import HttpAudit.Rule.Literal

set_option relaxedAutoImplicit false
set_option autoImplicit false

/-!
# What literals stand for

A literal that is accepted stands between two equal separators, and none of these occurs within it
without a backslash. What it stands for does not depend on the line that it is on, and it has as
many characters of each kind, apart from separators and backslashes.

## Main results

* `HttpAudit.Literal.decode_eq_ok_iff` — the literals that are accepted, and what they stand for.
* `HttpAudit.Literal.count_decode` — a literal has the characters of what it stands for.
* `HttpAudit.Sentence.compile_congr` — what a sentence stands for does not depend on the line.
-/

namespace HttpAudit

/-- A pattern has the text that it is compiled from. -/
lemma Pattern.text_of_compile? {t : List Char} {p : Pattern} (h : Pattern.compile? t = some p) :
    p.text = t := by
  unfold Pattern.compile? at h
  obtain ⟨_, -, h⟩ := Option.bind_eq_some_iff.mp h
  obtain ⟨_, -, h⟩ := Option.bind_eq_some_iff.mp h
  cases h
  rfl

namespace Literal

/-- What stands between two equal separators. -/
lemma inner?_eq_some_iff {d : Char} {e inner : List Char} :
    inner? d e = some inner ↔ e = d :: (inner ++ [d]) := by
  cases e with
  | nil => simp [inner?]
  | cons c rest =>
    simp only [inner?, Option.ite_none_right_eq_some, Bool.and_eq_true, beq_iff_eq,
      List.getLast?_eq_some_iff, Option.some.injEq, List.cons.injEq]
    constructor
    · rintro ⟨⟨rfl, init, rfl⟩, hinner⟩
      rw [List.dropLast_concat] at hinner
      rw [hinner]
      exact ⟨rfl, rfl⟩
    · rintro ⟨rfl, rfl⟩
      exact ⟨⟨rfl, inner, rfl⟩, List.dropLast_concat⟩

/-- The separator that encloses a literal is found, if there is one. -/
lemma findSome?_inner?_eq_some_iff {d : Char} {e inner : List Char} :
    (separators.findSome? fun d => (inner? d e).map (d, ·)) = some (d, inner) ↔
      isSeparator d = true ∧ e = d :: (inner ++ [d]) := by
  have hsound : ∀ d inner,
      (separators.findSome? fun d => (inner? d e).map (d, ·)) = some (d, inner) →
        isSeparator d = true ∧ e = d :: (inner ++ [d]) := by
    intro d inner h
    obtain ⟨d', hd', h'⟩ := List.exists_of_findSome?_eq_some h
    simp only [Option.map_eq_some_iff, Prod.mk.injEq, inner?_eq_some_iff] at h'
    obtain ⟨inner', he, rfl, rfl⟩ := h'
    exact ⟨by simpa [isSeparator] using hd', he⟩
  refine ⟨hsound d inner, ?_⟩
  rintro ⟨hd, he⟩
  cases hfound : separators.findSome? fun d => (inner? d e).map (d, ·) with
  | none =>
    have hnone := List.findSome?_eq_none_iff.mp hfound d (by simpa [isSeparator] using hd)
    rw [inner?_eq_some_iff.mpr he] at hnone
    cases hnone
  | some found =>
    obtain ⟨-, he'⟩ := hsound found.1 found.2 hfound
    obtain ⟨hd', hinner⟩ := List.cons.inj (he.symm.trans he')
    rw [hd', List.append_cancel_right_eq] at hinner
    rw [hd', hinner]

/-- What stands between two separators is read, unless a separator in it is not escaped. -/
lemma decode_between (line : List Char) {d : Char} (hd : isSeparator d = true) (inner : List Char) :
    decode line (d :: (inner ++ [d])) =
      if hasUnescaped d none inner then .error (.unescapedSeparator d (.ofList line))
      else .ok (unescape d inner) := by
  simp only [decode, findSome?_inner?_eq_some_iff.mpr ⟨hd, rfl⟩]

/-- What does not stand between two separators is not read. -/
lemma decode_of_not_between (line : List Char) {e : List Char}
    (h : ∀ d inner, isSeparator d = true → e ≠ d :: (inner ++ [d])) :
    decode line e = .error (.invalidExpression (.ofList e) (.ofList line)) := by
  have hnone : (separators.findSome? fun d => (inner? d e).map (d, ·)) = none := by
    rw [Option.eq_none_iff_forall_ne_some]
    rintro ⟨d, inner⟩ hfound
    obtain ⟨hd, he⟩ := findSome?_inner?_eq_some_iff.mp hfound
    exact h d inner hd he
  simp only [decode, hnone]

/-- The literals that are accepted, and what they stand for. -/
lemma decode_eq_ok_iff {line e t : List Char} :
    decode line e = .ok t ↔
      ∃ d inner, isSeparator d = true ∧ e = d :: (inner ++ [d]) ∧
        hasUnescaped d none inner = false ∧ unescape d inner = t := by
  constructor
  · intro h
    by_cases hbetween : ∃ d inner, isSeparator d = true ∧ e = d :: (inner ++ [d])
    · obtain ⟨d, inner, hd, rfl⟩ := hbetween
      rw [decode_between line hd] at h
      split_ifs at h with hstray
      exact ⟨d, inner, hd, rfl, Bool.of_not_eq_true hstray, Except.ok.inj h⟩
    · rw [decode_of_not_between line fun d inner hd he => hbetween ⟨d, inner, hd, he⟩] at h
      cases h
  · rintro ⟨d, inner, hd, rfl, hfree, rfl⟩
    rw [decode_between line hd, hfree, if_neg Bool.false_ne_true]

/-- A separator is escaped throughout a text if there is a backslash before each. -/
lemma hasUnescaped_eq_false_iff {d : Char} {before : Option Char} {s : List Char} :
    hasUnescaped d before s = false ↔
      ∀ u v, s = u ++ d :: v → (u.getLast?.or before) = some '\\' := by
  have hlast : ∀ (c : Char) (u : List Char) (before : Option Char),
      (c :: u).getLast?.or before = u.getLast?.or (some c) := by
    intro c u before
    rw [List.getLast?_cons]
    cases u.getLast? <;> rfl
  induction s generalizing before with
  | nil => simp [hasUnescaped]
  | cons c s ih =>
    simp only [hasUnescaped, Bool.or_eq_false_iff, Bool.and_eq_false_iff, beq_eq_false_iff_ne,
      bne_eq_false_iff_eq, ih]
    constructor
    · rintro ⟨hc, hs⟩ u v huv
      cases u with
      | nil =>
        obtain ⟨rfl, rfl⟩ := List.cons.inj huv
        simpa using hc
      | cons e u =>
        simp only [List.cons_append, List.cons.injEq] at huv
        obtain ⟨rfl, rfl⟩ := huv
        rw [hlast]
        exact hs u v rfl
    · intro h
      refine ⟨?_, fun u v huv => ?_⟩
      · by_cases hc : c = d
        · subst hc
          exact .inr (by simpa using h [] s rfl)
        · exact .inl hc
      · rw [← hlast c u before]
        exact h (c :: u) v (by rw [huv]; rfl)

/-- A text is compiled if it is a pattern. -/
lemma compile_eq_ok_iff {line e t : List Char} {p : Pattern} :
    compile line e t = .ok p ↔ Pattern.compile? t = some p := by
  unfold compile
  cases Pattern.compile? t <;> simp

/-- A literal is a pattern with anchors if what it stands for is. -/
lemma wholePattern_eq_ok_iff {line e : List Char} {p : Pattern} :
    wholePattern line e = .ok p ↔
      ∃ t, decode line e = .ok t ∧ Pattern.compile? (anchor t) = some p := by
  unfold wholePattern
  simp only [bind_eq_ok_iff, compile_eq_ok_iff]

/-- A literal is a pattern if what it stands for is. -/
lemma searchPattern_eq_ok_iff {line e : List Char} {p : Pattern} :
    searchPattern line e = .ok p ↔
      ∃ t, decode line e = .ok t ∧ Pattern.compile? t = some p := by
  unfold searchPattern
  simp only [bind_eq_ok_iff, compile_eq_ok_iff]

/-! ## Independence of the line -/

/-- What a literal stands for does not depend on the line. -/
lemma decode_congr {line line' e t : List Char} (h : decode line e = .ok t) :
    decode line' e = .ok t :=
  decode_eq_ok_iff.mpr (decode_eq_ok_iff.mp h)

/-- The pattern with anchors that a literal is does not depend on the line. -/
lemma wholePattern_congr {line line' e : List Char} {p : Pattern}
    (h : wholePattern line e = .ok p) : wholePattern line' e = .ok p := by
  obtain ⟨t, ht, hp⟩ := wholePattern_eq_ok_iff.mp h
  exact wholePattern_eq_ok_iff.mpr ⟨t, decode_congr ht, hp⟩

/-- The pattern that a literal is does not depend on the line. -/
lemma searchPattern_congr {line line' e : List Char} {p : Pattern}
    (h : searchPattern line e = .ok p) : searchPattern line' e = .ok p := by
  obtain ⟨t, ht, hp⟩ := searchPattern_eq_ok_iff.mp h
  exact searchPattern_eq_ok_iff.mpr ⟨t, decode_congr ht, hp⟩

/-! ## Characters of literals -/

/-- Without backslashes before separators there are as many other characters. -/
lemma count_unescape {c : Char} (hslash : c ≠ '\\') (d : Char) (s : List Char) :
    (unescape d s).count c = s.count c := by
  induction s using unescape.induct d with
  | case1 => rfl
  | case2 e => rfl
  | case3 e f rest hesc ih =>
    -- the backslash that is left out is no such character
    simp only [Bool.and_eq_true, beq_iff_eq] at hesc
    obtain ⟨rfl, rfl⟩ := hesc
    simp [unescape, List.count_cons, hslash.symm, ih]
  | case4 e f rest hesc ih =>
    rw [unescape, if_neg hesc, List.count_cons, ih, ← List.count_cons]

/-- With anchors there are as many other characters. -/
lemma count_anchor {c : Char} (hstart : c ≠ '^') (hstop : c ≠ '$') (t : List Char) :
    (anchor t).count c = t.count c := by
  have hfirst : (if t.head? == some '^' then t else '^' :: t).count c = t.count c := by
    split_ifs <;> simp [hstart.symm]
  unfold anchor
  generalize (if t.head? == some '^' then t else '^' :: t) = u at hfirst ⊢
  rw [← hfirst]
  by_cases hlast : (u.getLast? == some '$') = true <;> simp [hlast, hstop.symm]

/-- A literal has as many characters of each kind, apart from separators and backslashes, as what
it stands for. -/
lemma count_decode {c : Char} (hc : isSeparator c = false) (hslash : c ≠ '\\')
    {line e t : List Char} (h : decode line e = .ok t) : t.count c = e.count c := by
  obtain ⟨d, inner, hd, rfl, -, rfl⟩ := decode_eq_ok_iff.mp h
  have hne : d ≠ c := by
    rintro rfl
    rw [hd] at hc
    cases hc
  rw [count_unescape hslash]
  simp [hne]

/-- A pattern with anchors has as many characters of each kind as its literal, apart from
separators, backslashes and anchors. -/
lemma count_wholePattern {c : Char} (hc : isSeparator c = false) (hslash : c ≠ '\\')
    (hstart : c ≠ '^') (hstop : c ≠ '$') {line e : List Char} {p : Pattern}
    (h : wholePattern line e = .ok p) : p.text.count c = e.count c := by
  obtain ⟨t, ht, hp⟩ := wholePattern_eq_ok_iff.mp h
  rw [Pattern.text_of_compile? hp, count_anchor hstart hstop, count_decode hc hslash ht]

/-- A pattern has as many characters of each kind as its literal, apart from separators and
backslashes. -/
lemma count_searchPattern {c : Char} (hc : isSeparator c = false) (hslash : c ≠ '\\')
    {line e : List Char} {p : Pattern} (h : searchPattern line e = .ok p) :
    p.text.count c = e.count c := by
  obtain ⟨t, ht, hp⟩ := searchPattern_eq_ok_iff.mp h
  rw [Pattern.text_of_compile? hp, count_decode hc hslash ht]

end Literal

/-! ## Sentences -/

namespace Sentence

/-- What a sentence stands for does not depend on the line. -/
lemma compile_congr {line line' : List Char} {s : Sentence} {rule : Rule}
    (h : s.compile line = .ok rule) : s.compile line' = .ok rule := by
  cases s <;> simp only [compile, bind_eq_ok_iff, Except.ok.injEq] at h ⊢
  case bare v => exact h
  case key v text =>
    obtain ⟨p, hp, hrule⟩ := h
    exact ⟨p, Literal.wholePattern_congr hp, hrule⟩
  case scope v text =>
    obtain ⟨p, hp, hrule⟩ := h
    exact ⟨p, Literal.wholePattern_congr hp, hrule⟩
  case condition v name value =>
    obtain ⟨p, hp, h⟩ := h
    refine ⟨p, Literal.wholePattern_congr hp, ?_⟩
    split at h <;> rename_i hsearch <;> obtain ⟨q, hq, hrule⟩ := bind_eq_ok_iff.mp h
    · rw [if_pos hsearch]
      exact bind_eq_ok_iff.mpr ⟨q, Literal.searchPattern_congr hq, hrule⟩
    · rw [if_neg hsearch]
      exact bind_eq_ok_iff.mpr ⟨q, Literal.wholePattern_congr hq, hrule⟩
  case substitution v name find replacement =>
    obtain ⟨p, hp, q, hq, written, hwritten, hrule⟩ := h
    exact ⟨p, Literal.wholePattern_congr hp, q, Literal.searchPattern_congr hq, written,
      Literal.decode_congr hwritten, hrule⟩
  case percentage v digits => exact h

end Sentence

end HttpAudit
