import HttpAudit.Proofs.Text.Lines
import Mathlib.Algebra.Ring.Nat

set_option relaxedAutoImplicit false
set_option autoImplicit false

/-!
# Texts that are put together

Where one text is put behind another one, the last line of the first and the first line of the
second become one line. This leaves the lines that are not blank as they are if one of the two is
empty, or if both are blank; else a line is lost or another one comes to be. The length of the lines
tells which is the case, so that a change at one place is not made good at another.

## Main definitions

* `HttpAudit.Text.Fuses` — the line at the seam of two texts is none of theirs.
* `HttpAudit.Text.inkedLines` — the lines of a text that are not blank.
* `HttpAudit.Text.surplus` — the number of characters on these lines beyond the first ones.

## Main results

* `HttpAudit.Text.inkedLines_append` — the lines of texts that do not fuse.
* `HttpAudit.Text.surplus_append_lt` — the lines of texts that do.
-/

namespace HttpAudit.Text

/-- The lines of a text that are not blank. -/
def inkedLines (s : List Char) : List (List Char) := inked (lines s)

/-- The last line of one text and the first line of another one are both not empty, and not both
blank. -/
def Fuses (s t : List Char) : Prop :=
  ∃ line ∈ (lines s).getLast?, ∃ next ∈ (lines t).head?,
    line ≠ [] ∧ next ≠ [] ∧ (line ++ next).all isBlank = false

instance (s t : List Char) : Decidable (Fuses s t) :=
  inferInstanceAs (Decidable (∃ line ∈ (lines s).getLast?, ∃ next ∈ (lines t).head?, _))

/-- The number of characters beyond the first one on the lines of the text that are not blank. -/
def surplus (s : List Char) : Nat := ((inkedLines s).map fun line => line.length - 1).sum

/-! ## The seam -/

/-- A text has a first line. -/
lemma exists_lines_cons (s : List Char) : ∃ next more, lines s = next :: more := by
  have hne : lines s ≠ [] := by
    rw [lines_eq_splitOn]
    exact List.splitOn_ne_nil _ _
  exact List.exists_cons_of_ne_nil hne

/-- A text has a last line. -/
lemma exists_lines_concat (s : List Char) : ∃ before line, lines s = before ++ [line] := by
  obtain ⟨next, more, h⟩ := exists_lines_cons s
  exact ⟨_, _, (List.dropLast_append_getLast (h ▸ List.cons_ne_nil next more)).symm⟩

/-- The line at the seam of two texts. -/
lemma lines_append {s t : List Char} {before more : List (List Char)} {line next : List Char}
    (hs : lines s = before ++ [line]) (ht : lines t = next :: more) :
    lines (s ++ t) = before ++ (line ++ next) :: more := by
  induction s generalizing before line with
  | nil =>
    obtain ⟨rfl, rfl⟩ : before = [] ∧ line = [] := by
      cases before <;> simp_all [lines]
    exact ht
  | cons c s ih =>
    obtain ⟨before', line', hs'⟩ := exists_lines_concat s
    by_cases hc : c = '\n'
    · subst hc
      have hlines : lines ('\n' :: s) = [] :: lines s := by rw [lines, if_pos rfl]
      rw [hlines, hs', ← List.cons_append] at hs
      obtain ⟨rfl, hline⟩ := List.append_inj' hs rfl
      obtain rfl := List.singleton_inj.mp hline
      have hjoined : lines ('\n' :: s ++ t) = [] :: lines (s ++ t) := by
        rw [List.cons_append, lines, if_pos rfl]
      rw [hjoined, ih hs', List.cons_append]
    · have hcons (u : List Char) (first : List Char) (rest : List (List Char))
          (hu : lines u = first :: rest) : lines (c :: u) = (c :: first) :: rest := by
        rw [lines, if_neg hc, hu]
      rw [List.cons_append]
      cases before' with
      | nil =>
        rw [hcons s line' [] hs'] at hs
        obtain ⟨rfl, rfl⟩ : before = [] ∧ line = c :: line' := by
          cases before <;> simp_all
        exact hcons _ _ _ (ih hs')
      | cons first rest =>
        rw [hcons s first (rest ++ [line']) hs', ← List.cons_append] at hs
        obtain ⟨rfl, hline⟩ := List.append_inj' hs rfl
        obtain rfl := List.singleton_inj.mp hline
        exact hcons _ _ _ (ih hs')

/-- Some lines are not blank in front of others that are not. -/
lemma inked_append (ls ms : List (List Char)) : inked (ls ++ ms) = inked ls ++ inked ms :=
  List.filter_append ..

section Seam

variable {s t : List Char}

/-- Of texts that do not fuse, all lines that are not blank are lines of the whole. -/
lemma inkedLines_append (h : ¬Fuses s t) :
    inkedLines (s ++ t) = inkedLines s ++ inkedLines t := by
  obtain ⟨before, line, hs⟩ := exists_lines_concat s
  obtain ⟨next, more, ht⟩ := exists_lines_cons t
  have hseam : line = [] ∨ next = [] ∨ (line ++ next).all isBlank = true := by
    by_contra hcon
    simp only [not_or, Bool.not_eq_true] at hcon
    exact h ⟨line, by simp [hs], next, by simp [ht], hcon⟩
  have hone : inked [line ++ next] = inked [line] ++ inked [next] := by
    rcases hseam with rfl | rfl | hblank
    · rfl
    · rw [List.append_nil]
      exact (List.append_nil _).symm
    · have hboth := hblank
      rw [List.all_append, Bool.and_eq_true] at hboth
      rw [inked_cons, inked_cons, inked_cons, if_pos hblank, if_pos hboth.1, if_pos hboth.2]
      rfl
  have hmore (first : List Char) : inked (first :: more) = inked [first] ++ inked more :=
    inked_append [first] more
  rw [inkedLines, inkedLines, inkedLines, lines_append hs ht, hs, ht, inked_append, inked_append,
    hmore, hmore, hone]
  simp only [List.append_assoc]

/-- Texts that fuse have a longer line at the seam, or fewer lines. -/
lemma surplus_append_lt (h : Fuses s t) : surplus s + surplus t < surplus (s ++ t) := by
  obtain ⟨line, hline, next, hnext, hlineNe, hnextNe, hink⟩ := h
  obtain ⟨before, hs⟩ := List.getLast?_eq_some_iff.mp (Option.mem_def.mp hline)
  obtain ⟨more, ht⟩ := List.head?_eq_some_iff.mp (Option.mem_def.mp hnext)
  have hlinePos := List.length_pos_of_ne_nil hlineNe
  have hnextPos := List.length_pos_of_ne_nil hnextNe
  have hseam : ((inked [line]).map fun line => line.length - 1).sum +
      ((inked [next]).map fun line => line.length - 1).sum < line.length + next.length - 1 := by
    simp only [inked_cons]
    split_ifs with hline hnext hnext
    · rw [List.all_append, hline, hnext] at hink
      cases hink
    all_goals simp [inked]; omega
  have hmore : inked (next :: more) = inked [next] ++ inked more := inked_append [next] more
  have hwhole : inked ((line ++ next) :: more) = (line ++ next) :: inked more := by
    rw [inked_cons, if_neg (by simp [hink])]
  simp only [surplus, inkedLines, lines_append hs ht, hs, ht, inked_append, hmore, hwhole,
    List.map_append, List.sum_append, List.map_cons, List.sum_cons, List.length_append]
  omega

/-- The lines of the whole are no fewer and no shorter. -/
lemma surplus_append_le (s t : List Char) : surplus s + surplus t ≤ surplus (s ++ t) := by
  by_cases h : Fuses s t
  · exact (surplus_append_lt h).le
  · rw [surplus, surplus, surplus, inkedLines_append h, List.map_append, List.sum_append]

/-- The first line of a text that goes on starts like the first line of the text. -/
lemma exists_head?_lines_append {next : List Char} {more : List (List Char)}
    (hs : lines s = next :: more) (t : List Char) :
    ∃ rest, (lines (s ++ t)).head? = some (next ++ rest) := by
  obtain ⟨before, line, hlast⟩ := exists_lines_concat s
  obtain ⟨other, others, ht⟩ := exists_lines_cons t
  rw [lines_append hlast ht]
  cases before with
  | nil =>
    obtain ⟨rfl, -⟩ : line = next ∧ [] = more := by simpa [hlast] using hs
    exact ⟨other, rfl⟩
  | cons first before =>
    obtain ⟨rfl, -⟩ : first = next ∧ before ++ [line] = more := by simpa [hlast] using hs
    exact ⟨[], by simp⟩

/-- A text that fuses with another one fuses with it however it goes on. -/
lemma fuses_append (h : Fuses s t) (r : List Char) : Fuses s (t ++ r) := by
  obtain ⟨line, hline, next, hnext, hlineNe, hnextNe, hink⟩ := h
  obtain ⟨more, ht⟩ := List.head?_eq_some_iff.mp (Option.mem_def.mp hnext)
  obtain ⟨rest, hrest⟩ := exists_head?_lines_append ht r
  refine ⟨line, hline, next ++ rest, hrest, hlineNe, by simp [hnextNe], ?_⟩
  rw [← List.append_assoc, List.all_append, hink, Bool.false_and]

/-- A text that fuses neither with itself nor with another one does not fuse with both together. -/
lemma not_fuses_append (hs : ¬Fuses s s) (ht : ¬Fuses s t) : ¬Fuses s (s ++ t) := by
  obtain ⟨before, line, hlast⟩ := exists_lines_concat s
  obtain ⟨next, more, hnext⟩ := exists_lines_cons t
  have hwhole := lines_append hlast hnext
  simp only [Fuses, hlast, hwhole, hnext, List.getLast?_concat, List.head?_cons, Option.mem_def,
    Option.some.injEq, exists_eq_left'] at hs ht ⊢
  cases before with
  | nil =>
    -- the text is one line, which is empty or blank
    simp only [List.nil_append, List.head?_cons, Option.some.injEq, exists_eq_left'] at hs ⊢
    rintro ⟨hline, -, hink⟩
    have hblank : line.all isBlank = true := by simpa [hline] using hs
    have hother : next.all isBlank = false := by
      simpa only [List.all_append, hblank, Bool.true_and] using hink
    have hne : next ≠ [] := by
      rintro rfl
      cases hother
    exact ht ⟨hline, hne, by rw [List.all_append, hother, Bool.and_false]⟩
  | cons first before => exact hs

/-- Texts do not fuse at the end of a line. -/
lemma not_fuses_of_isLineEnd (s : List Char) (ht : IsLineEnd t) : ¬Fuses s t := by
  rintro ⟨-, -, next, hnext, -, hne, -⟩
  rcases ht with rfl | ⟨t, rfl⟩
  · exact hne (by simpa [lines] using hnext.symm)
  · exact hne (by simpa [lines] using hnext.symm)

/-- Texts do not fuse at the start of a line. -/
lemma not_fuses_of_endsLine (hs : s = [] ∨ ∃ u, s = u ++ ['\n']) (t : List Char) :
    ¬Fuses s t := by
  rintro ⟨line, hline, -, -, hne, -⟩
  rcases hs with rfl | ⟨u, rfl⟩
  · exact hne (by simpa [lines] using hline.symm)
  · rw [lines_append_cons] at hline
    exact hne (by simpa [lines] using hline.symm)

end Seam

end HttpAudit.Text
