import HttpAudit.Text.Blank
import Mathlib.Data.List.Basic
import Mathlib.Data.List.Flatten
import Mathlib.Data.List.TakeWhile

set_option relaxedAutoImplicit false
set_option autoImplicit false

/-!
# Lines and what is on them

A text is divided at its line feeds, so the lines of a text with a line feed in its middle are those
of both halves. Blank lines mean nothing in a policy. What its other lines mean can therefore be put
together from the parts of the text, wherever these are cut at the end of a line.

## Main definitions

* `HttpAudit.Text.IsLineEnd` — a text starts at the end of a line.
* `HttpAudit.Text.inked` — the lines that are not blank.

## Main results

* `HttpAudit.Text.lines_append_cons` — the lines around a line feed.
* `HttpAudit.Text.unlines_lines`, `HttpAudit.Text.lines_unlines` — lines put together again.
* `HttpAudit.Text.exists_trim`, `HttpAudit.Text.trim_append` — what trimming takes away.
-/

namespace HttpAudit.Text

/-! ## Lines -/

/-- A text is divided at its line feeds. -/
lemma lines_eq_splitOn (s : List Char) : lines s = s.splitOn '\n' := by
  induction s with
  | nil => rfl
  | cons c s ih =>
    rw [lines, ih, List.splitOn_cons_eq_if_modifyHead]
    by_cases hc : c = '\n'
    · simp [hc]
    · cases hs : s.splitOn '\n' with
      | nil => exact absurd hs (List.splitOn_ne_nil _ _)
      | cons line more => simp [hc]

/-- The lines of a text are those before a line feed and those after it. -/
lemma lines_append_cons (s t : List Char) : lines (s ++ '\n' :: t) = lines s ++ lines t := by
  simp only [lines_eq_splitOn, List.splitOn_append_cons_self]

/-- A text without line feeds is one line. -/
lemma lines_of_not_mem {s : List Char} (h : '\n' ∉ s) : lines s = [s] := by
  rw [lines_eq_splitOn, List.splitOn_eq_singleton h]

/-- The characters on the lines of a text are characters of the text. -/
lemma mem_of_mem_lines {s line : List Char} (h : line ∈ lines s) {c : Char} (hc : c ∈ line) :
    c ∈ s := by
  fun_induction lines s generalizing line <;> grind

/-- There are no line feeds on a line. -/
lemma not_mem_of_mem_lines {s line : List Char} (h : line ∈ lines s) : '\n' ∉ line := by
  fun_induction lines s generalizing line <;> grind

/-- The text starts at the end of a line: it is empty or starts with a line feed. -/
def IsLineEnd (s : List Char) : Prop :=
  s = [] ∨ ∃ t, s = '\n' :: t

/-- A text consists of its first line, and of what starts at the end of this line. -/
lemma exists_isLineEnd (s : List Char) : ∃ line t, s = line ++ t ∧ '\n' ∉ line ∧ IsLineEnd t := by
  by_cases hfeed : '\n' ∈ s
  · obtain ⟨line, t, rfl, hline⟩ := List.eq_append_cons_of_mem hfeed
    exact ⟨line, '\n' :: t, rfl, hline, .inr ⟨t, rfl⟩⟩
  · exact ⟨s, [], (List.append_nil s).symm, hfeed, .inl rfl⟩

/-! ## Texts of lines -/

/-- The text of some lines has line feeds between them. -/
lemma unlines_eq_intercalate (ls : List (List Char)) : unlines ls = ['\n'].intercalate ls := by
  induction ls with
  | nil => rfl
  | cons line ls ih =>
    cases ls with
    | nil => simp [unlines]
    | cons next more => simp [unlines, ih]

/-- A text is the text of its lines. -/
lemma unlines_lines (s : List Char) : unlines (lines s) = s := by
  rw [unlines_eq_intercalate, lines_eq_splitOn, List.intercalate_splitOn]

/-- The lines of the text of some lines are these lines. -/
lemma lines_unlines {ls : List (List Char)} (hls : ∀ line ∈ ls, '\n' ∉ line) (hne : ls ≠ []) :
    lines (unlines ls) = ls := by
  rw [unlines_eq_intercalate, lines_eq_splitOn, List.splitOn_intercalate '\n' hls hne]

/-- The characters of the text of some lines are theirs, or line feeds. -/
lemma mem_unlines {ls : List (List Char)} {c : Char} (h : c ∈ unlines ls) :
    c = '\n' ∨ ∃ line ∈ ls, c ∈ line := by
  fun_induction unlines ls <;> grind

/-- The text of some lines and others has a line feed between both. -/
lemma unlines_append {ls ms : List (List Char)} (hls : ls ≠ []) (hms : ms ≠ []) :
    unlines (ls ++ ms) = unlines ls ++ '\n' :: unlines ms := by
  induction ls with
  | nil => exact absurd rfl hls
  | cons line ls ih =>
    cases ls with
    | nil =>
      obtain ⟨next, more, rfl⟩ := List.exists_cons_of_ne_nil hms
      rfl
    | cons next more =>
      have hrest := ih (List.cons_ne_nil next more)
      simp only [List.cons_append, unlines] at hrest ⊢
      rw [hrest]
      simp

/-! ## Trimming -/

/-- A text is what trimming leaves of it, between blanks. -/
lemma exists_trim (s : List Char) :
    ∃ b b', s = b ++ trim s ++ b' ∧ (∀ c ∈ b, isBlank c = true) ∧ ∀ c ∈ b', isBlank c = true := by
  refine ⟨s.takeWhile isBlank, ((trimLeft s).reverse.takeWhile isBlank).reverse, ?_,
    fun c hc => List.mem_takeWhile_imp hc, fun c hc => ?_⟩
  · rw [List.append_assoc, trim, trimRight, ← List.reverse_append, List.takeWhile_append_dropWhile,
      List.reverse_reverse, trimLeft, List.takeWhile_append_dropWhile]
  · exact List.mem_takeWhile_imp (List.mem_reverse.mp hc)

/-- Leading blanks are all taken away before anything else. -/
lemma trimLeft_append {b s : List Char} (hb : ∀ c ∈ b, isBlank c = true)
    (hs : s.head?.any (fun c => !isBlank c) = true) : trimLeft (b ++ s) = s := by
  obtain ⟨c, hc, hblank⟩ := (Option.any_eq_true _ _).mp hs
  obtain ⟨t, rfl⟩ := List.head?_eq_some_iff.mp hc
  rw [trimLeft, List.dropWhile_append_of_pos hb, List.dropWhile_cons_of_neg (by simpa using hblank)]

/-- The blanks around a text that neither starts nor ends with one are what trimming takes away. -/
lemma trim_append {b s b' : List Char} (hb : ∀ c ∈ b, isBlank c = true)
    (hb' : ∀ c ∈ b', isBlank c = true) (hfirst : s.head?.any (fun c => !isBlank c) = true)
    (hlast : s.getLast?.any (fun c => !isBlank c) = true) : trim (b ++ s ++ b') = s := by
  have hleft : trimLeft (b ++ s ++ b') = s ++ b' := by
    rw [List.append_assoc]
    refine trimLeft_append hb ?_
    obtain ⟨c, hc, hblank⟩ := (Option.any_eq_true _ _).mp hfirst
    rw [List.head?_append, hc]
    exact hblank
  have hright : trimLeft (b'.reverse ++ s.reverse) = s.reverse := by
    refine trimLeft_append (fun c hc => hb' c (List.mem_reverse.mp hc)) ?_
    rwa [List.head?_reverse]
  rw [trim, hleft, trimRight, List.reverse_append, ← trimLeft, hright, List.reverse_reverse]

/-! ## Lines that are not blank -/

/-- The lines that are not blank. -/
def inked (ls : List (List Char)) : List (List Char) :=
  ls.filter fun line => !line.all isBlank

/-- The lines `ls'` are `ls` with some blank lines left out. -/
structure Thins (ls ls' : List (List Char)) : Prop where
  /-- There are no other lines, and their order is the same. -/
  sublist : ls'.Sublist ls
  /-- Only blank lines are missing. -/
  inked_eq : inked ls' = inked ls

/-- A line is blank or not. -/
lemma inked_cons (line : List Char) (ls : List (List Char)) :
    inked (line :: ls) = if line.all isBlank then inked ls else line :: inked ls := by
  by_cases hall : line.all isBlank = true <;> simp [inked, hall]

namespace Thins

variable {ls ls' ms ms' : List (List Char)}

/-- No line need be left out. -/
lemma refl (ls : List (List Char)) : Thins ls ls := ⟨.refl ls, rfl⟩

/-- Blank lines can be left out in two steps. -/
lemma trans {ls'' : List (List Char)} (h : Thins ls ls') (h' : Thins ls' ls'') : Thins ls ls'' :=
  ⟨h'.sublist.trans h.sublist, h'.inked_eq.trans h.inked_eq⟩

/-- Blank lines can be left out of lines and of those that follow them. -/
lemma append (h : Thins ls ls') (h' : Thins ms ms') : Thins (ls ++ ms) (ls' ++ ms') := by
  refine ⟨h.sublist.append h'.sublist, ?_⟩
  simp only [inked, List.filter_append]
  exact congrArg₂ (· ++ ·) h.inked_eq h'.inked_eq

/-- Blank lines can all be left out. -/
lemma of_blank (h : ∀ line ∈ ls, ∀ c ∈ line, isBlank c = true) : Thins ls [] := by
  refine ⟨List.nil_sublist ls, (List.filter_eq_nil_iff.mpr fun line hline => ?_).symm⟩
  have hall : line.all isBlank = true := List.all_eq_true.mpr (h line hline)
  simp [hall]

/-- Blank lines can be left out before other lines are put in the place of each line, if blank lines
stand for themselves. -/
lemma flatMap {f : List Char → List (List Char)}
    (hf : ∀ line, (∀ c ∈ line, isBlank c = true) → f line = [line]) (h : Thins ls ls') :
    Thins (ls.flatMap f) (ls'.flatMap f) := by
  have hinked : ∀ ks, inked (ks.flatMap f) = inked ((inked ks).flatMap f) := by
    intro ks
    induction ks with
    | nil => rfl
    | cons line ks ih =>
      rw [inked_cons]
      split_ifs with hall
      · rw [List.flatMap_cons, hf line (List.all_eq_true.mp hall), List.singleton_append,
          inked_cons, if_pos hall, ih]
      · simp only [List.flatMap_cons, inked, List.filter_append] at ih ⊢
        rw [ih]
  refine ⟨h.sublist.flatMap f, ?_⟩
  rw [hinked ls', hinked ls, h.inked_eq]

end Thins

end HttpAudit.Text
