import HttpAudit.Proofs.Pattern.Choices
import HttpAudit.Proofs.Pattern.Replace
import HttpAudit.Proofs.Rule.Literal
import HttpAudit.Rule.Parser

set_option relaxedAutoImplicit false
set_option autoImplicit false

/-!
# What the anchors of literals do

A literal for whole texts is compiled with an anchor in front of its text, unless this starts with
`^`, and one behind it, unless this ends in `$`. The anchors are part of the first and of the last
choice of the pattern only. In a pattern of several choices none of these is held to both ends of a
text, so that some texts match of which the pattern matches a stretch only.

## Main definitions

* `HttpAudit.Pattern.MatchesWhole` — a pattern matches a text as a whole.
* `HttpAudit.Literal.groupAnchored` — a pattern in a group with anchors around it.
* `HttpAudit.Literal.AnchorsMatch` — the anchors let one of the choices match a stretch of a text.

## Main results

* `HttpAudit.Literal.wholePattern_isMatch_iff` — what a literal matches, and when this is what its
  text matches as a whole.
* `HttpAudit.Literal.isMatch_iff_matchesWhole` — a literal of one choice matches whole texts.
-/

namespace HttpAudit

open Pattern

/-- A text that compiles is read to its end, and matches what one of its choices does. -/
lemma Pattern.exists_read?_of_compile? {t : List Char} {p : Pattern} (h : compile? t = some p) :
    ∃ state, ReadState.start.read? t.length t = some state ∧
      p.node = (Syntax.choice state.level.choices).node := by
  simp only [compile?, parse?, Option.bind_eq_bind, Option.bind_eq_some_iff] at h
  obtain ⟨_, ⟨state, hread, _, -, htree⟩, _, -, h⟩ := h
  cases htree
  cases h
  exact ⟨state, hread, congrArg Syntax.node state.level.tree_close⟩

/-- The pattern matches the whole of the text. -/
def Pattern.MatchesWhole (p : Pattern) (s : List Char) : Prop :=
  Spans p.node ⟨[], s⟩ ⟨s.reverse, []⟩

namespace Literal

/-- The text of a pattern in a group, with anchors around it. -/
def groupAnchored (t : List Char) : List Char :=
  '^' :: '(' :: '?' :: ':' :: (t ++ [')', '$'])

/-- The anchors and the group are four characters at least. -/
lemma add_four_le_length_groupAnchored (t : List Char) :
    t.length + 4 ≤ (groupAnchored t).length := by
  simp only [groupAnchored, List.length_cons, List.length_append]
  omega

/-- The anchor that is put in front of the text of a pattern. -/
def frontAnchor (t : List Char) : Option Assertion :=
  if t.head? = some '^' then none else some .startText

/-- The anchor that is put behind the text of a pattern, with the flags in force there. Within a
comment it is none. -/
def backAnchor (t : List Char) (flags : Flags) : Option Assertion :=
  if t.getLast? = some '$' || endsInComment t then none else some flags.endAnchor

/-- The text of a literal with its anchors. -/
lemma anchor_eq (t : List Char) :
    anchor t = (if t.head? = some '^' then [] else ['^']) ++
      (t ++ if t.getLast? = some '$' then [] else ['$']) := by
  unfold anchor
  cases t with
  | nil => rfl
  | cons c t =>
    simp only [beq_iff_eq]
    by_cases hfront : (c :: t).head? = some '^'
    · rw [if_pos hfront, if_pos hfront]
      split_ifs <;> simp
    · rw [if_neg hfront, if_neg hfront, List.getLast?_cons_cons]
      split_ifs <;> simp

/-- With the front anchor read, the rest of the text is to be read behind it. -/
lemma read?_anchor (t : List Char) :
    ReadState.start.read? (anchor t).length (anchor t) =
      ReadState.read? (t ++ if t.getLast? = some '$' then [] else ['$']).length
        { ReadState.start with
          level.items := ((frontAnchor t).map Piece.ofAssertion).toList.reverse }
        (t ++ if t.getLast? = some '$' then [] else ['$']) := by
  rw [anchor_eq, frontAnchor]
  split_ifs <;> rfl

section Spans

variable {t : List Char} {whole alone grouped : Pattern} {state : ReadState}

/-- The choices of a pattern have the anchors as conditions at their ends. -/
lemma spans_anchor_iff (h : ReadState.start.read? t.length t = some state)
    (hwhole : compile? (anchor t) = some whole) {p q : Place} :
    Spans whole.node p q ↔
      SpansAmong state.level.choices (Place.Meets (frontAnchor t))
        (Place.Meets (backAnchor t state.flags)) p q := by
  obtain ⟨final, hfinal, hnode⟩ := exists_read?_of_compile? hwhole
  have hwithin : ReadState.Within ((frontAnchor t).map Piece.ofAssertion).toList [] .start
      { ReadState.start with
        level.items := ((frontAnchor t).map Piece.ofAssertion).toList.reverse } :=
    .outside (.first [])
  rw [read?_anchor] at hfinal
  rw [hnode, ← spansAmong_iff_spans_choice final.level.choices_ne_nil Place.meets_none
    Place.meets_none, backAnchor]
  by_cases hback : t.getLast? = some '$'
  · rw [if_pos hback, List.append_nil] at hfinal
    obtain ⟨final', hfinal', hlevel⟩ := ReadState.read?_behind h hwithin
    cases hfinal.symm.trans hfinal'
    simp only [hback, decide_true, Bool.true_or, if_true]
    exact spansAmong_behind_iff hlevel
  · rw [if_neg hback, List.length_append] at hfinal
    obtain ⟨level', hlevel, final', hfinal', hpush⟩ := ReadState.read?_behind_anchor h hwithin
    cases hfinal.symm.trans hfinal'
    simp only [hback, decide_false, Bool.false_or]
    rw [hpush]
    split_ifs
    · exact spansAmong_behind_iff hlevel
    · rw [spansAmong_push_iff]
      exact spansAmong_behind_iff hlevel

/-- In a group with anchors around it a pattern is found in the texts that it matches as a whole. -/
lemma isMatch_groupAnchored_iff (halone : compile? t = some alone)
    (hgrouped : compile? (groupAnchored t) = some grouped) {s : List Char} :
    grouped.isMatch s = true ↔ alone.MatchesWhole s := by
  obtain ⟨state, hread, hnode⟩ := exists_read?_of_compile? halone
  obtain ⟨final, hfinal, hnode'⟩ := exists_read?_of_compile? hgrouped
  obtain ⟨-, hchoices⟩ :=
    ReadState.read?_group hread (add_four_le_length_groupAnchored t) hfinal
  have hspans {p q : Place} : Spans grouped.node p q ↔
      (p.before = [] ∧ Spans alone.node p q) ∧ q.rest = [] := by
    have hsequence : [Syntax.assert .startText, .choice state.level.choices, .assert .endText] =
        .assert .startText :: ([.choice state.level.choices] ++ [.assert .endText]) := rfl
    rw [hnode', hchoices, Syntax.choice, hsequence, spans_assert_append_iff,
      spans_append_assert_iff, hnode, and_assoc]
    simp [Assertion.holds, Syntax.sequence]
  rw [isMatch_iff, MatchesWhole]
  constructor
  · rintro ⟨w, u, q, rfl, h⟩
    obtain ⟨⟨hw, h⟩, hq⟩ := hspans.mp h
    obtain rfl := List.reverse_eq_nil_iff.mp hw
    obtain rfl := h.eq_of_rest_eq_nil hq
    simpa using h
  · intro h
    exact ⟨[], s, _, rfl, hspans.mpr ⟨⟨rfl, h⟩, rfl⟩⟩

end Spans

/-! ## What literals match -/

/-- One of the choices of the pattern `t` matches a stretch of the text `s`. The anchor put in front
of `t` holds the first one alone to the start of the text, and the anchor put behind it the last one
alone to an end. -/
def AnchorsMatch (t : List Char) (choices : List Syntax) (flags : Flags) (s : List Char) : Prop :=
  ∃ w u q, s = w ++ u ∧ SpansAmong choices (Place.Meets (frontAnchor t))
    (Place.Meets (backAnchor t flags)) ⟨w.reverse, u⟩ q

/-- The anchor in front holds where a text starts. -/
lemma meets_frontAnchor {t : List Char} {p : Place} (hp : p.before = []) :
    p.Meets (frontAnchor t) := by
  unfold frontAnchor
  split_ifs
  · exact p.meets_none
  · rw [Place.meets_some_iff, hp]
    rfl

/-- The anchor behind holds where a text ends. -/
lemma meets_backAnchor {t : List Char} {flags : Flags} {q : Place} (hq : q.rest = []) :
    q.Meets (backAnchor t flags) := by
  unfold backAnchor Flags.endAnchor
  split_ifs
  · exact q.meets_none
  · rw [Place.meets_some_iff, hq]
    cases flags.crlf <;> rfl
  · rw [Place.meets_some_iff, hq]
    rfl

/-- The anchors let a choice match a whole text. -/
lemma anchorsMatch_of_spans {t s : List Char} {choices : List Syntax} {flags : Flags}
    (hchoices : choices ≠ [])
    (h : Spans (Syntax.choice choices).node ⟨[], s⟩ ⟨s.reverse, []⟩) :
    AnchorsMatch t choices flags s := by
  obtain ⟨c, hc, hspans⟩ := (spans_choice_iff hchoices).mp h
  obtain ⟨before, after, rfl⟩ := List.append_of_mem hc
  exact ⟨[], s, _, rfl, before, c, after, rfl, hspans, fun _ => meets_frontAnchor rfl,
    fun _ => meets_backAnchor rfl⟩

/-- **What a literal matches.** A literal is a pattern with anchors around the text `t`, which is a
pattern itself. It matches the texts of which the anchors let one of the choices of `t` match a
stretch. If `t` is put into a group with anchors around it, then this matches what `t` matches as a
whole. The literal does so if and only if `t` matches all of a text whenever the anchors let one of
its choices match a stretch of it.

**Proof sketch.** The parts of `t` are the same ones within the group and between the anchors
(`ReadState.read?_group`, `ReadState.read?_behind`, `ReadState.read?_behind_anchor`), and anchors
are conditions on the first and on the last choice (`spans_anchor_iff`). They hold at the ends of a
whole text. -/
theorem wholePattern_isMatch_iff {line e t : List Char} {whole alone : Pattern}
    (hdecode : decode line e = .ok t) (hwhole : wholePattern line e = .ok whole)
    (halone : compile? t = some alone) :
    ∃ choices flags, topLevel? t = some (choices, flags) ∧
      (∀ s, whole.isMatch s = true ↔ AnchorsMatch t choices flags s) ∧
      (∀ grouped, compile? (groupAnchored t) = some grouped →
        ∀ s, grouped.isMatch s = true ↔ alone.MatchesWhole s) ∧
      ((∀ s, whole.isMatch s = true ↔ alone.MatchesWhole s) ↔
        ∀ s, AnchorsMatch t choices flags s → alone.MatchesWhole s) := by
  obtain ⟨t', ht', hcompile⟩ := wholePattern_eq_ok_iff.mp hwhole
  obtain rfl : t = t' := Except.ok.inj (hdecode.symm.trans ht')
  obtain ⟨state, hread, hnode⟩ := exists_read?_of_compile? halone
  have hmatch (s : List Char) : whole.isMatch s = true ↔
      AnchorsMatch t state.level.choices state.flags s := by
    rw [isMatch_iff]
    simp only [spans_anchor_iff hread hcompile]
    rfl
  refine ⟨state.level.choices, state.flags, by rw [topLevel?, hread]; rfl, hmatch,
    fun grouped hgrouped s => isMatch_groupAnchored_iff halone hgrouped, ?_⟩
  refine forall_congr' fun s => ?_
  rw [hmatch]
  refine ⟨Iff.mp, fun h => ⟨h, fun hspans => ?_⟩⟩
  rw [MatchesWhole, hnode] at hspans
  exact anchorsMatch_of_spans state.level.choices_ne_nil hspans

/-- A pattern of one choice matches whole texts only, if anchors for the text stand at its ends, be
it that they are put there or that they are its own. -/
theorem isMatch_iff_matchesWhole {t : List Char} {whole alone : Pattern} {c : Syntax}
    {flags : Flags} (hwhole : compile? (anchor t) = some whole) (halone : compile? t = some alone)
    (htop : topLevel? t = some ([c], flags)) (hcomment : endsInComment t = false)
    (hlines : flags.multiLine = false)
    (hfront : t.head? = some '^' → ∃ as, c = Syntax.sequence (.assert .startText :: as))
    (hback : t.getLast? = some '$' → ∃ as, c = Syntax.sequence (as ++ [.assert .endText]))
    {s : List Char} : whole.isMatch s = true ↔ alone.MatchesWhole s := by
  obtain ⟨state, hread, hnode⟩ := exists_read?_of_compile? halone
  rw [topLevel?, hread] at htop
  obtain ⟨hchoices, rfl⟩ := Prod.mk.inj (Option.some.inj htop)
  rw [hchoices, Syntax.choice] at hnode
  have hspans {p q : Place} : Spans whole.node p q ↔ Spans c.node p q ∧
      p.Meets (frontAnchor t) ∧ q.Meets (backAnchor t state.flags) := by
    rw [spans_anchor_iff hread hwhole, hchoices, spansAmong_singleton_iff]
  -- a match starts and ends where the text does
  have hstart {p q : Place} (h : Spans whole.node p q) : p.before = [] := by
    obtain ⟨hc, hmeets, -⟩ := hspans.mp h
    unfold frontAnchor at hmeets
    split_ifs at hmeets with hcaret
    · obtain ⟨as, rfl⟩ := hfront hcaret
      simpa [Assertion.holds] using (spans_assert_append_iff.mp hc).1
    · simpa [Assertion.holds] using Place.meets_some_iff.mp hmeets
  have hend {p q : Place} (h : Spans whole.node p q) : q.rest = [] := by
    obtain ⟨hc, -, hmeets⟩ := hspans.mp h
    rw [backAnchor, Flags.endAnchor, hlines, hcomment, if_neg Bool.false_ne_true,
      Bool.or_false] at hmeets
    split_ifs at hmeets with hdollar
    · obtain ⟨as, rfl⟩ := hback (of_decide_eq_true hdollar)
      simpa [Assertion.holds] using (spans_append_assert_iff.mp hc).2
    · simpa [Assertion.holds] using Place.meets_some_iff.mp hmeets
  rw [isMatch_iff, MatchesWhole, hnode]
  constructor
  · rintro ⟨w, u, q, rfl, h⟩
    obtain rfl := List.reverse_eq_nil_iff.mp (hstart h)
    obtain rfl := h.eq_of_rest_eq_nil (hend h)
    simpa using (hspans.mp h).1
  · intro h
    exact ⟨[], s, _, rfl, hspans.mpr ⟨h, meets_frontAnchor rfl, meets_backAnchor rfl⟩⟩

/-- Of two characters to choose from, the first one is found at the start of a text and the last one
at its end, whatever stands on the other side. In a group they are whole texts. -/
theorem wholePattern_isMatch_choice :
    ∃ whole grouped, wholePattern [] "/a|b/".toList = .ok whole ∧
      compile? (groupAnchored "a|b".toList) = some grouped ∧
      (∀ s, whole.isMatch s = true ↔ "a".toList <+: s ∨ "b".toList <:+ s) ∧
      ∀ s, grouped.isMatch s = true ↔ s = "a".toList ∨ s = "b".toList := by
  obtain ⟨whole, hwhole⟩ : ∃ whole, wholePattern [] "/a|b/".toList = .ok whole := ⟨_, rfl⟩
  obtain ⟨alone, halone⟩ : ∃ alone, compile? "a|b".toList = some alone := ⟨_, rfl⟩
  obtain ⟨grouped, hgrouped⟩ : ∃ grouped, compile? (groupAnchored "a|b".toList) = some grouped :=
    ⟨_, rfl⟩
  obtain ⟨choices, flags, htop, hmatch, hgroup, -⟩ :=
    wholePattern_isMatch_iff (by decide +kernel) hwhole halone
  have hchoices : topLevel? "a|b".toList =
      some ([.chars (.single 'a'), .chars (.single 'b')], {}) := rfl
  have hnode : alone.node = (Syntax.choice [.chars (.single 'a'), .chars (.single 'b')]).node := by
    cases halone
    rfl
  have hchar (c : Char) {p q : Place} : Spans (Syntax.chars (.single c)).node p q ↔
      ∃ t, p.rest = c :: t ∧ q = ⟨c :: p.before, t⟩ := @spans_plain_iff [c] p q
  cases htop.symm.trans hchoices
  refine ⟨whole, grouped, hwhole, hgrouped, fun s => (hmatch s).trans ?_,
    fun s => (hgroup grouped hgrouped s).trans ?_⟩
  · simp only [AnchorsMatch, spansAmong_cons_cons_iff, spansAmong_singleton_iff, true_and, hchar]
    constructor
    · rintro ⟨w, u, q, rfl, ⟨⟨t, rfl, rfl⟩, hfront⟩ | ⟨⟨t, rfl, rfl⟩, hback⟩⟩
      · obtain rfl : w = [] := by simpa [Assertion.holds] using Place.meets_some_iff.mp hfront
        exact .inl ⟨t, rfl⟩
      · obtain rfl : t = [] := by
          simpa [Assertion.holds, Flags.endAnchor] using Place.meets_some_iff.mp hback
        exact .inr ⟨w, rfl⟩
    · rintro (⟨t, rfl⟩ | ⟨w, rfl⟩)
      · exact ⟨[], _, _, rfl, .inl ⟨⟨t, rfl, rfl⟩, meets_frontAnchor rfl⟩⟩
      · exact ⟨w, _, _, rfl, .inr ⟨⟨[], rfl, rfl⟩, meets_backAnchor rfl⟩⟩
  · rw [MatchesWhole, hnode, spans_choice_iff (List.cons_ne_nil _ _)]
    simp only [List.mem_cons, List.not_mem_nil, or_false, exists_eq_or_imp, exists_eq_left, hchar]
    have hone (c : Char) :
        (∃ t, s = c :: t ∧ (⟨s.reverse, []⟩ : Place) = ⟨[c], t⟩) ↔ s = [c] := by
      constructor
      · rintro ⟨t, rfl, heq⟩
        rw [← (Place.mk.inj heq).2]
      · rintro rfl
        exact ⟨[], rfl, rfl⟩
    exact or_congr (hone 'a') (hone 'b')

/-- A rule takes a value for a match of which its pattern matches the first character alone. -/
theorem valueMatches_choice :
    (Rule.parse "/.*/ stop_if /a|b/".toList).toOption.map
        (fun rule => rule.map (·.valueMatches "ab")) = some (some true) ∧
      decode [] "/a|b/".toList = .ok "a|b".toList ∧
      (wholePattern [] "/a|b/".toList).toOption.map (·.isMatch "ab".toList) = some true ∧
      (compile? (groupAnchored "a|b".toList)).map (·.isMatch "ab".toList) = some false := by
  decide +kernel

end Literal

end HttpAudit
