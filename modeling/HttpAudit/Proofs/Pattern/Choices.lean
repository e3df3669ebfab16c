import HttpAudit.Proofs.Pattern.Reading
import HttpAudit.Proofs.Pattern.Verbatim
import Mathlib.Data.List.Basic

set_option relaxedAutoImplicit false
set_option autoImplicit false

/-!
# Anchors at the ends of a choice

Anchors that are put around the text of a pattern belong to its first and to its last choice. If
there are several choices, then the first one only must start where the text does, and the last one
only must end where it does. In a group with anchors around it all choices must do both.

## Main definitions

* `HttpAudit.Pattern.Level.choices` — the choices of a level of nesting.
* `HttpAudit.Pattern.topLevel?` — the choices of a pattern, and the flags at its end.
* `HttpAudit.Pattern.SpansAmong` — one of several choices matches between two places, with
  conditions for the first and for the last one.

## Main results

* `HttpAudit.Pattern.spansAmong_behind_iff`, `HttpAudit.Pattern.spansAmong_push_iff` — anchors as
  conditions.
* `HttpAudit.Pattern.ReadState.read?_group` — a pattern in a group with anchors around it.
* `HttpAudit.Pattern.ReadState.read?_behind`, `HttpAudit.Pattern.ReadState.read?_behind_anchor` — a
  pattern behind other parts and in front of an anchor.
-/

namespace HttpAudit.Pattern

/-! ## The trees of levels -/

/-- The tree of parts one after the other. -/
lemma Piece.tree_sequence (pieces : List Piece) :
    (Piece.sequence pieces).tree = Syntax.sequence (pieces.map (·.tree)) := by
  match pieces with
  | [] => rfl
  | [piece] => rfl
  | piece :: piece' :: pieces => rfl

/-- The tree of parts to choose from. -/
lemma Piece.tree_choice (pieces : List Piece) :
    (Piece.choice pieces).tree = Syntax.choice (pieces.map (·.tree)) := by
  match pieces with
  | [] => rfl
  | [piece] => rfl
  | piece :: piece' :: pieces => rfl

namespace Level

/-- The choices of a level, first to last. -/
def choices (level : Level) : List Syntax :=
  level.branch.branches.reverse.map (·.tree)

/-- The tree of a level is a choice among these. -/
lemma tree_close (level : Level) : level.close.tree = Syntax.choice level.choices :=
  Piece.tree_choice _

/-- The last choice is the incomplete branch. -/
lemma choices_eq (level : Level) :
    level.choices = level.branches.reverse.map (·.tree) ++
      [Syntax.sequence (level.items.reverse.map (·.tree))] := by
  simp [choices, branch, Piece.tree_sequence]

/-- There is a choice at least. -/
lemma choices_ne_nil (level : Level) : level.choices ≠ [] := by
  rw [choices_eq]
  exact List.append_ne_nil_of_right_ne_nil _ (List.cons_ne_nil _ _)

/-- Another part belongs to the last choice. -/
lemma choices_push (level : Level) (piece : Piece) :
    ∃ init last, level.choices = init ++ [Syntax.sequence last] ∧
      (level.push piece).choices = init ++ [Syntax.sequence (last ++ [piece.tree])] := by
  refine ⟨_, _, level.choices_eq, ?_⟩
  rw [choices_eq]
  simp [push]

/-- Parts in front of a level belong to the first choice. -/
lemma Behind.choices {lead : List Piece} {level level' : Level} (h : level.Behind lead level') :
    ∃ first later, level.choices = Syntax.sequence first :: later ∧
      level'.choices = Syntax.sequence (lead.map (·.tree) ++ first) :: later := by
  cases h with
  | first items =>
    refine ⟨items.reverse.map (·.tree), [], ?_, ?_⟩
    · simp [choices_eq]
    · simp [choices_eq]
  | later first branches items =>
    refine ⟨first.map (·.tree), branches.reverse.map (·.tree) ++
      [Syntax.sequence (items.reverse.map (·.tree))], ?_, ?_⟩
    · simp [choices_eq, Piece.tree_sequence]
    · simp [choices_eq, Piece.tree_sequence]

end Level

/-- The choices of a pattern, and the flags in force at its end. -/
def topLevel? (p : List Char) : Option (List Syntax × Flags) :=
  (ReadState.start.read? p.length p).map fun state => (state.level.choices, state.flags)

/-- Whether a pattern ends within a comment, so that an anchor behind it adds no part to it. -/
def endsInComment (p : List Char) : Bool :=
  (ReadState.start.read? (p.length + 1) (p ++ ['$'])).map (·.level.items.length) ==
    (ReadState.start.read? p.length p).map (·.level.items.length)

/-! ## Choices with conditions at their ends -/

/-- One of the choices matches between the two places, where the first one must start at a place
with the property `start`, and the last one end at a place with the property `stop`. -/
def SpansAmong (choices : List Syntax) (start stop : Place → Prop) (p q : Place) : Prop :=
  ∃ before c after, choices = before ++ c :: after ∧ Spans c.node p q ∧
    (before = [] → start p) ∧ (after = [] → stop q)

section

variable {choices init later : List Syntax} {c c' : Syntax} {start start' stop stop' : Place → Prop}
  {p q : Place}

/-- Without conditions a choice matches what one of its patterns does. -/
lemma spansAmong_iff_spans_choice (h : choices ≠ []) (hstart : ∀ p, start p) (hstop : ∀ q, stop q) :
    SpansAmong choices start stop p q ↔ Spans (Syntax.choice choices).node p q := by
  rw [spans_choice_iff h]
  constructor
  · rintro ⟨before, c, after, rfl, hspans, -⟩
    exact ⟨c, List.mem_append_right before List.mem_cons_self, hspans⟩
  · rintro ⟨c, hc, hspans⟩
    obtain ⟨before, after, rfl⟩ := List.append_of_mem hc
    exact ⟨before, c, after, rfl, hspans, fun _ => hstart p, fun _ => hstop q⟩

/-- A single choice must meet both conditions. -/
lemma spansAmong_singleton_iff :
    SpansAmong [c] start stop p q ↔ Spans c.node p q ∧ start p ∧ stop q := by
  constructor
  · rintro ⟨before, d, after, heq, hspans, hstart, hstop⟩
    cases before with
    | nil =>
      cases heq
      exact ⟨hspans, hstart rfl, hstop rfl⟩
    | cons _ before => simp at heq
  · rintro ⟨hspans, hstart, hstop⟩
    exact ⟨[], c, [], rfl, hspans, fun _ => hstart, fun _ => hstop⟩

/-- Of several choices the first one only must meet the condition at the start. -/
lemma spansAmong_cons_cons_iff :
    SpansAmong (c :: c' :: later) start stop p q ↔
      Spans c.node p q ∧ start p ∨ SpansAmong (c' :: later) (fun _ => True) stop p q := by
  constructor
  · rintro ⟨before, d, after, heq, hspans, hstart, hstop⟩
    cases before with
    | nil =>
      cases heq
      exact .inl ⟨hspans, hstart rfl⟩
    | cons _ before =>
      obtain ⟨rfl, htail⟩ := List.cons.inj heq
      exact .inr ⟨before, d, after, htail, hspans, fun _ => trivial, hstop⟩
  · rintro (⟨hspans, hstart⟩ | ⟨before, d, after, heq, hspans, -, hstop⟩)
    · exact ⟨[], c, c' :: later, rfl, hspans, fun _ => hstart, nofun⟩
    · refine ⟨c :: before, d, after, ?_, hspans, nofun, hstop⟩
      rw [heq, List.cons_append]

/-- What is asked of the start may be a condition or a part of the first choice. -/
lemma spansAmong_cons_iff
    (h : ∀ p q, start' p ∧ Spans c'.node p q ↔ start p ∧ Spans c.node p q) :
    SpansAmong (c' :: later) start' stop p q ↔ SpansAmong (c :: later) start stop p q := by
  have hmono {c c' : Syntax} {start start' : Place → Prop}
      (h : ∀ p q, start' p ∧ Spans c'.node p q → start p ∧ Spans c.node p q) :
      SpansAmong (c' :: later) start' stop p q → SpansAmong (c :: later) start stop p q := by
    rintro ⟨before, d, after, heq, hspans, hstart, hstop⟩
    cases before with
    | nil =>
      cases heq
      obtain ⟨hstart, hspans⟩ := h p q ⟨hstart rfl, hspans⟩
      exact ⟨[], c, later, rfl, hspans, fun _ => hstart, hstop⟩
    | cons _ before =>
      cases heq
      exact ⟨c :: before, d, after, rfl, hspans, nofun, hstop⟩
  exact ⟨hmono fun p q => (h p q).mp, hmono fun p q => (h p q).mpr⟩

/-- What is asked of the end may be a condition or a part of the last choice. -/
lemma spansAmong_concat_iff
    (h : ∀ p q, Spans c'.node p q ∧ stop' q ↔ Spans c.node p q ∧ stop q) :
    SpansAmong (init ++ [c']) start stop' p q ↔ SpansAmong (init ++ [c]) start stop p q := by
  have hmono {c c' : Syntax} {stop stop' : Place → Prop}
      (h : ∀ p q, Spans c'.node p q ∧ stop' q → Spans c.node p q ∧ stop q) :
      SpansAmong (init ++ [c']) start stop' p q → SpansAmong (init ++ [c]) start stop p q := by
    rintro ⟨before, d, after, heq, hspans, hstart, hstop⟩
    rcases List.eq_nil_or_concat' after with rfl | ⟨after, e, rfl⟩
    · obtain ⟨rfl, hd⟩ := List.append_inj' heq rfl
      cases hd
      obtain ⟨hspans, hstop⟩ := h p q ⟨hspans, hstop rfl⟩
      exact ⟨init, c, [], rfl, hspans, hstart, fun _ => hstop⟩
    · rw [← List.cons_append, ← List.append_assoc] at heq
      obtain ⟨rfl, -⟩ := List.append_inj' heq rfl
      exact ⟨before, d, after ++ [c], by simp, hspans, hstart, by simp⟩
  exact ⟨hmono fun p q => (h p q).mp, hmono fun p q => (h p q).mpr⟩

end

/-! ## Anchors -/

/-- An assertion as a part of a pattern. -/
def Piece.ofAssertion (assertion : Assertion) : Piece := ⟨.assert assertion, 0, true⟩

/-- What an anchor at the end of a pattern stands for. -/
def Flags.endAnchor (flags : Flags) : Assertion :=
  if flags.multiLine then .endLine flags.crlf else .endText

/-- An assertion matches the empty text where it holds. -/
lemma spans_assert_iff {assertion : Assertion} {p q : Place} :
    Spans (Syntax.assert assertion).node p q ↔
      assertion.holds p.before.head? p.rest.head? = true ∧ q = p := by
  constructor
  · intro h
    cases h with
    | assert h => exact ⟨h, rfl⟩
  · rintro ⟨h, rfl⟩
    exact .assert h

/-- In front of a sequence an assertion is a condition on where it starts. -/
lemma spans_assert_append_iff {assertion : Assertion} {as : List Syntax} {p q : Place} :
    Spans (Syntax.sequence (.assert assertion :: as)).node p q ↔
      assertion.holds p.before.head? p.rest.head? = true ∧
        Spans (Syntax.sequence as).node p q := by
  rw [spans_sequence_cons_iff]
  constructor
  · rintro ⟨m, hassert, h⟩
    obtain ⟨hholds, rfl⟩ := spans_assert_iff.mp hassert
    exact ⟨hholds, h⟩
  · rintro ⟨hholds, h⟩
    exact ⟨p, spans_assert_iff.mpr ⟨hholds, rfl⟩, h⟩

/-- Behind a sequence an assertion is a condition on where it ends. -/
lemma spans_append_assert_iff {assertion : Assertion} {as : List Syntax} {p q : Place} :
    Spans (Syntax.sequence (as ++ [.assert assertion])).node p q ↔
      Spans (Syntax.sequence as).node p q ∧
        assertion.holds q.before.head? q.rest.head? = true := by
  rw [spans_sequence_append_iff]
  constructor
  · rintro ⟨m, h, hassert⟩
    obtain ⟨hholds, rfl⟩ := spans_assert_iff.mp hassert
    exact ⟨h, hholds⟩
  · rintro ⟨h, hholds⟩
    exact ⟨q, h, spans_assert_iff.mpr ⟨hholds, rfl⟩⟩

namespace ReadState

/-- An anchor behind the other parts is the last part of the last choice. -/
lemma read?_of_skip_eq_anchor {state : ReadState} {s : List Char} (n : Nat)
    (hskip : state.flags.skip s = ['$']) (henclosing : state.enclosing = []) :
    state.read? (n + 1) s = some (state.push (.ofAssertion state.flags.endAnchor)) := by
  rw [read?_of_step n hskip rfl]
  refine read?_of_skip_eq_nil n ?_ henclosing
  unfold Flags.skip
  split_ifs <;> rfl

/-- The parts of a pattern are read in the same way with a trailer behind it. This is left then,
unless the pattern ends within a comment. -/
lemma exists_reads_trailer {p : List Char} {last : ReadState}
    (h : start.read? p.length p = some last) :
    ∃ (k : Nat) (g : Bool → List Char), k ≤ p.length ∧
      (∀ b, Reads k start (p ++ trailer b) last (g b)) ∧ last.enclosing = [] ∧
      ∀ b, last.flags.skip (g b) = if endsInComment p then [] else trailer b := by
  obtain ⟨k, rest, hk, hreads, hskip, henclosing⟩ := exists_reads h
  obtain ⟨g, hg, hread⟩ := hreads.trails (.inl fun _ => rfl)
  refine ⟨k, g, hk, hread, henclosing, ?_⟩
  have htrails := hg.skip last.flags
  rw [hskip] at htrails
  obtain ⟨m, hm⟩ : ∃ m, p.length + 1 = k + (m + 1) := ⟨p.length - k, by omega⟩
  have hanchor : start.read? (p.length + 1) (p ++ ['$']) = last.read? (m + 1) (g false) := by
    rw [hm]
    exact (hread false).read?_eq (m + 1)
  rcases htrails with htrails | ⟨-, htrails⟩
  · rw [read?_of_skip_eq_anchor m (htrails false) henclosing] at hanchor
    have hcomment : endsInComment p = false := by
      simp [endsInComment, hanchor, h, push, Level.push]
    simpa [hcomment] using htrails
  · rw [read?_of_skip_eq_nil (m + 1) (htrails false) henclosing] at hanchor
    have hcomment : endsInComment p = true := by
      simp [endsInComment, hanchor, h]
    simpa [hcomment] using htrails

/-- The group that is open behind an anchor. -/
def anchoredGroup : OpenGroup := ⟨none, {}, Level.start.push (.ofAssertion .startText)⟩

/-- A group behind an anchor is opened. -/
lemma read?_openGroup (n : Nat) (s : List Char) :
    start.read? (n + 2) ('^' :: '(' :: '?' :: ':' :: s) =
      read? n { start with enclosing := [anchoredGroup] } s :=
  rfl

/-- A group behind an anchor is closed, and another anchor behind it ends the pattern. -/
lemma read?_closeGroup {state final : ReadState} {s : List Char} {n : Nat}
    (henclosing : state.enclosing = [anchoredGroup]) (hskip : state.flags.skip s = [')', '$'])
    (hfinal : state.read? (n + 2) s = some final) :
    final.level.choices = [Syntax.sequence [.assert .startText,
      .choice state.level.choices, .assert .endText]] := by
  obtain ⟨body, hbody, hstep⟩ : ∃ body : Piece, body.tree = Syntax.choice state.level.choices ∧
      state.step ')' ['$'] = some (⟨{}, state.groups, state.names, [],
        anchoredGroup.outer.push body⟩, ['$']) := by
    refine ⟨⟨state.level.close.tree, state.level.close.depth + 1, true⟩, state.level.tree_close, ?_⟩
    simp only [step, closeGroup?, henclosing]
    rfl
  rw [read?_of_step _ hskip hstep, read?_of_skip_eq_anchor _ rfl rfl] at hfinal
  cases hfinal
  rw [← hbody]
  rfl

/-- In a group with anchors around it, a pattern is read as it is without them, and it does not end
within a comment. -/
lemma read?_group {m : Nat} {p : List Char} {last final : ReadState}
    (h : start.read? p.length p = some last) (hm : p.length + 4 ≤ m)
    (hfinal : start.read? m ('^' :: '(' :: '?' :: ':' :: (p ++ trailer true)) = some final) :
    endsInComment p = false ∧ final.level.choices = [Syntax.sequence [.assert .startText,
      .choice last.level.choices, .assert .endText]] := by
  obtain ⟨k, g, hk, hreads, henclosing, hskip⟩ := exists_reads_trailer h
  have hwithin : Within [] [anchoredGroup] start { start with enclosing := [anchoredGroup] } :=
    .outside (.first [])
  obtain ⟨last', hlast, hreads'⟩ := (hreads true).within hwithin
  obtain ⟨hopen, hlevel⟩ := hlast.of_enclosing_eq_nil henclosing
  obtain ⟨i, rfl⟩ : ∃ i, m = k + (i + 2) + 2 := ⟨m - k - 4, by omega⟩
  rw [read?_openGroup, hreads'.read?_eq] at hfinal
  rw [← hlast.flags_eq] at hskip
  cases hcomment : endsInComment p with
  | true =>
    -- the end of the group is part of the comment
    rw [read?_of_open _ (by rw [hskip, if_pos hcomment])
      (by rw [hopen]; exact List.cons_ne_nil _ _)] at hfinal
    cases hfinal
  | false =>
    refine ⟨rfl, ?_⟩
    rw [← hlevel.eq]
    exact read?_closeGroup hopen (by rw [hskip, hcomment]; rfl) hfinal

/-- Behind other parts a pattern is read as it is without them. -/
lemma read?_behind {p : List Char} {last state' : ReadState} {lead : List Piece}
    (h : start.read? p.length p = some last) (hwithin : Within lead [] start state') :
    ∃ final, state'.read? p.length p = some final ∧ last.level.Behind lead final.level := by
  obtain ⟨k, rest, hk, hreads, hskip, henclosing⟩ := exists_reads h
  obtain ⟨final, hfinal, hreads'⟩ := hreads.within hwithin
  obtain ⟨hfinal_enclosing, hlevel⟩ := hfinal.of_enclosing_eq_nil henclosing
  obtain ⟨m, hm⟩ := Nat.exists_eq_add_of_le hk
  refine ⟨final, ?_, hlevel⟩
  rw [hm, hreads'.read?_eq]
  exact read?_of_skip_eq_nil m (by rw [hfinal.flags_eq, hskip]) hfinal_enclosing

/-- So it is in front of an anchor, which is left out if the pattern ends within a comment. -/
lemma read?_behind_anchor {p : List Char} {last state' : ReadState} {lead : List Piece}
    (h : start.read? p.length p = some last) (hwithin : Within lead [] start state') :
    ∃ level', last.level.Behind lead level' ∧ ∃ final,
      state'.read? (p.length + 1) (p ++ ['$']) = some final ∧
        final.level = if endsInComment p then level'
          else level'.push (.ofAssertion last.flags.endAnchor) := by
  obtain ⟨k, g, hk, hreads, henclosing, hskip⟩ := exists_reads_trailer h
  obtain ⟨final, hfinal, hreads'⟩ := (hreads false).within hwithin
  obtain ⟨hfinal_enclosing, hlevel⟩ := hfinal.of_enclosing_eq_nil henclosing
  obtain ⟨m, hm⟩ : ∃ m, p.length + 1 = k + (m + 1) := ⟨p.length - k, by omega⟩
  have hread : state'.read? (p.length + 1) (p ++ ['$']) = final.read? (m + 1) (g false) := by
    rw [hm]
    exact hreads'.read?_eq (m + 1)
  refine ⟨final.level, hlevel, ?_⟩
  rw [hread]
  rw [← hfinal.flags_eq] at hskip ⊢
  cases hcomment : endsInComment p with
  | true =>
    have hnil : final.flags.skip (g false) = [] := by rw [hskip, if_pos hcomment]
    exact ⟨final, read?_of_skip_eq_nil _ hnil hfinal_enclosing, rfl⟩
  | false =>
    have hanchor : final.flags.skip (g false) = ['$'] := by
      rw [hskip, hcomment]
      rfl
    exact ⟨_, read?_of_skip_eq_anchor m hanchor hfinal_enclosing, rfl⟩

end ReadState

/-- The place has the property, if one is asked for. -/
def Place.Meets (assertion : Option Assertion) (p : Place) : Prop :=
  ∀ a ∈ assertion, a.holds p.before.head? p.rest.head? = true

/-- Nothing is asked for. -/
lemma Place.meets_none (p : Place) : p.Meets none := nofun

/-- A certain property is asked for. -/
lemma Place.meets_some_iff {a : Assertion} {p : Place} :
    p.Meets (some a) ↔ a.holds p.before.head? p.rest.head? = true := by
  simp only [Meets, Option.mem_some_iff, forall_eq']

/-- An assertion in front of a level is a condition on where its first choice starts. -/
lemma spansAmong_behind_iff {level level' : Level} {lead : Option Assertion}
    (h : level.Behind (lead.map Piece.ofAssertion).toList level') {stop : Place → Prop}
    {p q : Place} :
    SpansAmong level'.choices (Place.Meets none) stop p q ↔
      SpansAmong level.choices (Place.Meets lead) stop p q := by
  obtain ⟨first, later, hchoices, hchoices'⟩ := h.choices
  rw [hchoices, hchoices']
  refine spansAmong_cons_iff fun p q => ?_
  cases lead with
  | none => rfl
  | some a =>
    rw [Place.meets_some_iff, and_iff_right p.meets_none]
    exact spans_assert_append_iff

/-- An assertion behind a level is a condition on where its last choice ends. -/
lemma spansAmong_push_iff {level : Level} {a : Assertion} {start : Place → Prop} {p q : Place} :
    SpansAmong (level.push (.ofAssertion a)).choices start (Place.Meets none) p q ↔
      SpansAmong level.choices start (Place.Meets (some a)) p q := by
  obtain ⟨init, last, hchoices, hchoices'⟩ := level.choices_push (.ofAssertion a)
  rw [hchoices, hchoices']
  refine spansAmong_concat_iff fun p q => ?_
  rw [Place.meets_some_iff, and_iff_left q.meets_none]
  exact spans_append_assert_iff

end HttpAudit.Pattern
