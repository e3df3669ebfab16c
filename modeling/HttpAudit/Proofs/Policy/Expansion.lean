import HttpAudit.Proofs.Policy.Include
import Mathlib.Data.List.Infix

set_option relaxedAutoImplicit false
set_option autoImplicit false

/-!
# Which lines an inclusion may touch

The blanks around a directive are replaced with it, but they do not reach beyond the next line that
is not blank. So each line without a directive that is not blank separates the texts around it:
these are dealt with on their own. Blank lines are left out only where nothing but blank
lines is between them and a directive.

## Main definitions

* `HttpAudit.Include.Separates` — a line that separates the texts around it.
* `HttpAudit.Include.Expands` — lines, and the lines that the inclusion of canned policies leaves of
  them.

## Main results

* `HttpAudit.Include.expandWith_append` — the texts around a separating line.
* `HttpAudit.Include.expands_lines` — the lines of a text and those of its expansion.
-/

namespace HttpAudit.Include

open Text

/-- The line is not blank. -/
def IsInked (line : List Char) : Prop :=
  '\n' ∉ line ∧ ∃ c ∈ line, isBlank c = false

/-! ## One directive -/

/-- Blanks before a character that is not blank, on one line, do not reach to the end of a line. -/
lemma toLineEnd?_of_isInked {line : List Char} (hline : IsInked line) (t : List Char) :
    toLineEnd? (line ++ t) = none := by
  obtain ⟨hfeed, hink⟩ := hline
  induction line with
  | nil => simp at hink
  | cons c line ih =>
    obtain ⟨hc, hfeed⟩ := List.ne_and_not_mem_of_not_mem_cons hfeed
    by_cases hblank : isBlank c = true
    · have hrest : ∃ d ∈ line, isBlank d = false := by
        obtain ⟨d, hd, hink⟩ := hink
        rcases List.mem_cons.mp hd with rfl | hd
        · rw [hblank] at hink
          cases hink
        · exact ⟨d, hd, hink⟩
      simp [toLineEnd?, hblank, ih hfeed hrest, hc.symm]
    · simp [toLineEnd?, hblank]

/-- Where blanks end does not depend on what is behind a line that is not blank. -/
lemma toLineEnd?_append {x : List Char} (hx : toLineEnd? x = none) (s : List Char) :
    toLineEnd? (s ++ '\n' :: x) = (toLineEnd? s).map fun p => (p.1, p.2 ++ '\n' :: x) := by
  induction s with
  | nil =>
    have hblank : isBlank '\n' = true := by decide
    simp [toLineEnd?, hblank, hx]
  | cons c s ih =>
    by_cases hblank : isBlank c = true
    · cases hs : toLineEnd? s with
      | some found => simp [toLineEnd?, hblank, ih, hs]
      | none => by_cases hc : c = '\n' <;> simp [toLineEnd?, hblank, ih, hs, hc]
    · simp [toLineEnd?, hblank]

/-- Two texts that are one line before the end of a line are the same line. -/
lemma line_unique {line line' t t' : List Char} (hline : '\n' ∉ line) (hline' : '\n' ∉ line')
    (ht : IsLineEnd t) (ht' : IsLineEnd t') (h : line ++ t = line' ++ t') : line = line' := by
  have hfirst : ∀ {l u : List Char}, '\n' ∉ l → IsLineEnd u → (lines (l ++ u)).head? = some l := by
    intro l u hl hu
    rcases hu with rfl | ⟨u, rfl⟩
    · rw [List.append_nil, lines_of_not_mem hl]
      rfl
    · rw [lines_append_cons, lines_of_not_mem hl]
      rfl
  have hheads := hfirst hline ht
  rw [h, hfirst hline' ht'] at hheads
  exact (Option.some.inj hheads).symm

section Replace

variable {directive body : List Char}

/-- The directive is not found before a line without it that is not blank. -/
lemma directive?_of_isInked (hd : IsDirective directive) {line t : List Char}
    (hline : IsInked line) (htrim : trim line ≠ directive) (ht : IsLineEnd t) :
    directive? directive (line ++ t) = none := by
  apply Option.eq_none_iff_forall_ne_some.mpr
  rintro ⟨b, after⟩ hfound
  obtain ⟨lead, hs, hlead, hb, hafter⟩ := directive?_eq_some hfound
  obtain ⟨l, u, rfl, hl, hu⟩ := exists_isLineEnd lead
  obtain ⟨hl', -⟩ := List.forall_mem_append.mp hlead
  rcases hu with rfl | ⟨u, rfl⟩
  · obtain ⟨b₁, b₂, rfl, hb₁, hb₂⟩ := exists_isLineEnd b
    obtain ⟨hblank, -⟩ := List.forall_mem_append.mp hb
    have hend : IsLineEnd (b₂ ++ after) := by
      rcases hb₂ with rfl | ⟨b₂, rfl⟩
      · exact hafter
      · exact .inr ⟨b₂ ++ after, rfl⟩
    have hone : '\n' ∉ l ++ directive ++ b₁ := by simp [hl, hd.oneLine, hb₁]
    have hsame : line = l ++ directive ++ b₁ :=
      line_unique hline.1 hone ht hend (by rw [hs]; simp)
    exact htrim (hsame ▸ trim_append hl' hblank hd.first hd.last)
  · have hsame : line = l := line_unique hline.1 hl ht (.inr ⟨u ++ directive ++ b ++ after, rfl⟩)
      (by rw [hs]; simp)
    obtain ⟨c, hc, hink⟩ := hline.2
    rw [hl' c (hsame ▸ hc)] at hink
    cases hink

/-- Whether a directive is found does not depend on what is behind a text at which the search for it
and for the end of its blanks halts. -/
lemma directive?_append (hd : IsDirective directive) {x : List Char} (hx : toLineEnd? x = none)
    (hnone : directive? directive x = none) (s : List Char) :
    directive? directive (s ++ '\n' :: x) =
      (directive? directive s).map fun p => (p.1, p.2 ++ '\n' :: x) := by
  have hfeed : isBlank '\n' = true := by decide
  cases hs : trimLeft s with
  | nil =>
    have hblank : ∀ c ∈ s, isBlank c = true := List.dropWhile_eq_nil_iff.mp hs
    have htrim : trimLeft (s ++ '\n' :: x) = trimLeft x := by
      rw [trimLeft, List.dropWhile_append_of_pos hblank, List.dropWhile_cons_of_pos hfeed, trimLeft]
    have hempty : directive.isPrefixOf [] = false := by
      cases directive with
      | nil => exact absurd rfl hd.ne_nil
      | cons c d => rfl
    have hself : directive? directive s = none := by simp [directive?, hs, hempty]
    rw [hself, Option.map_none, ← hnone, directive?, htrim, directive?]
  | cons c r =>
    have htrim : trimLeft (s ++ '\n' :: x) = trimLeft s ++ '\n' :: x := by
      rw [trimLeft, List.dropWhile_append, ← trimLeft, hs]
      rfl
    by_cases hlength : directive.length ≤ (trimLeft s).length
    · have hprefix : directive <+: trimLeft s ++ '\n' :: x ↔ directive <+: trimLeft s :=
        List.isPrefix_append_of_length hlength
      simp only [directive?, htrim, List.isPrefixOf_iff_prefix, hprefix]
      split_ifs
      · rw [List.drop_append_of_le_length hlength, toLineEnd?_append hx]
      · rfl
    · -- a longer directive would have the line feed
      have hlonger : ¬directive <+: trimLeft s ++ '\n' :: x := by
        intro hprefix
        have hbefore : trimLeft s ++ ['\n'] <+: directive :=
          List.prefix_of_prefix_length_le ⟨x, by simp⟩ hprefix (by simp; omega)
        exact hd.oneLine (hbefore.subset (by simp))
      have hself : ¬directive <+: trimLeft s := fun hprefix => hlength hprefix.length_le
      simp only [directive?, htrim, List.isPrefixOf_iff_prefix, if_neg hlonger, if_neg hself,
        Option.map_none]

/-- What is around a line feed is dealt with on its own, if the search for the directive and for the
end of its blanks halts behind it. -/
lemma onward_append_cons (hd : IsDirective directive) {x : List Char} (hx : toLineEnd? x = none)
    (hnone : directive? directive x = none) (lineStart : Bool) (s : List Char) :
    onward directive body lineStart (s ++ '\n' :: x) =
      onward directive body lineStart s ++ '\n' :: onward directive body true x := by
  obtain ⟨n, hn⟩ : ∃ n, s.length = n := ⟨_, rfl⟩
  induction n using Nat.strong_induction_on generalizing s lineStart with
  | _ n ih =>
  cases s with
  | nil =>
    have hempty : directive? directive ('\n' :: x) = none := by
      have hfirst := directive?_append hd hx hnone []
      rw [List.nil_append] at hfirst
      cases directive with
      | nil => exact absurd rfl hd.ne_nil
      | cons c d => simpa [directive?, trimLeft] using hfirst
    rw [List.nil_append, onward_cons hd, hempty, ite_self]
    rfl
  | cons c s =>
    rw [List.length_cons] at hn
    have hfirst := directive?_append hd hx hnone (c :: s)
    rw [List.cons_append] at hfirst ⊢
    rw [onward_cons hd, onward_cons hd, hfirst]
    cases hfound : (if lineStart = true then directive? directive (c :: s) else none) with
    | none =>
      have hnone' : (if lineStart = true then
          (directive? directive (c :: s)).map fun p => (p.1, p.2 ++ '\n' :: x) else none) =
            none := by
        cases lineStart <;> simp_all
      rw [hnone']
      exact congrArg (c :: ·) (ih s.length (by omega) _ s rfl)
    | some found =>
      obtain ⟨b, after⟩ := found
      obtain ⟨hstart, hfound⟩ := Option.ite_none_right_eq_some.mp hfound
      have hshorter := length_lt_of_directive?_eq_some hd hfound
      rw [List.length_cons] at hshorter
      rw [if_pos hstart, hfound]
      simp only [Option.map_some]
      rw [ih after.length (by omega) _ after rfl, List.append_assoc]

/-- A blank text has no directive. -/
lemma onward_of_blank (hd : IsDirective directive) (lineStart : Bool) {s : List Char}
    (hs : ∀ c ∈ s, isBlank c = true) : onward directive body lineStart s = s := by
  induction s generalizing lineStart with
  | nil => rfl
  | cons c s ih =>
    have hnone : directive? directive (c :: s) = none := by
      have htrim : trimLeft (c :: s) = [] := List.dropWhile_eq_nil_iff.mpr hs
      cases directive with
      | nil => exact absurd rfl hd.ne_nil
      | cons d ds => simp [directive?, htrim]
    rw [onward_cons hd, hnone, ite_self]
    exact congrArg (c :: ·) (ih _ (List.forall_mem_cons.mp hs).2)

variable (body) in
/-- A line without the directive that is not blank is passed over. -/
lemma onward_of_isInked (hd : IsDirective directive) {line t : List Char} (hline : IsInked line)
    (htrim : trim line ≠ directive) (ht : IsLineEnd t) :
    onward directive body true (line ++ t) = line ++ onward directive body false t := by
  rw [← onward_append hd hline.1]
  have hnone := directive?_of_isInked hd hline htrim ht
  cases hs : line ++ t with
  | nil => rfl
  | cons c s => rw [onward_cons hd, onward_cons hd, ← hs, hnone, ite_self, ite_self]

end Replace

/-! ## The canned policies -/

/-- The line has a directive that includes a canned policy. -/
def IsInclude (line : List Char) : Prop := ∃ canned : Canned, trim line = directive canned.name

/-- A separating line: it is neither blank, nor does it include a canned policy. -/
def Separates (line : List Char) : Prop := IsInked line ∧ ¬IsInclude line

/-- A separating line stays, and what is behind it is dealt with on its own. -/
lemma expandWith_of_separates {line : List Char} (hline : Separates line) (among : List Canned) :
    expandWith among line = line ∧
      ∀ t, expandWith among (line ++ '\n' :: t) = line ++ '\n' :: expandWith among t := by
  induction among with
  | nil => exact ⟨rfl, fun t => rfl⟩
  | cons canned among ih =>
    have hd := isDirective_canned canned
    have htrim : trim line ≠ directive canned.name := fun h => hline.2 ⟨canned, h⟩
    constructor
    · have hreplace : replace (directive canned.name) canned.text.toList line = line := by
        have hstay := onward_of_isInked canned.text.toList hd hline.1 htrim (.inl rfl)
        rwa [List.append_nil, show onward _ _ false [] = [] from rfl, List.append_nil] at hstay
      rw [expandWith, List.foldl_cons, hreplace]
      exact ih.1
    · intro t
      have hreplace : replace (directive canned.name) canned.text.toList (line ++ '\n' :: t) =
          line ++ '\n' :: replace (directive canned.name) canned.text.toList t := by
        have hstay := onward_of_isInked canned.text.toList hd hline.1 htrim
          (.inr ⟨t, rfl⟩)
        rwa [onward_cons hd, if_neg Bool.false_ne_true] at hstay
      rw [expandWith, List.foldl_cons, hreplace]
      exact ih.2 _

/-- What is before a separating line is dealt with on its own. -/
lemma expandWith_append {line t : List Char} (hline : Separates line) (ht : IsLineEnd t)
    (among : List Canned) (s : List Char) :
    expandWith among (s ++ '\n' :: (line ++ t)) =
      expandWith among s ++ '\n' :: expandWith among (line ++ t) := by
  induction among generalizing s t with
  | nil => rfl
  | cons canned among ih =>
    have hd := isDirective_canned canned
    have htrim : trim line ≠ directive canned.name := fun h => hline.2 ⟨canned, h⟩
    have hreplace : replace (directive canned.name) canned.text.toList (s ++ '\n' :: (line ++ t)) =
        replace (directive canned.name) canned.text.toList s ++
          '\n' :: replace (directive canned.name) canned.text.toList (line ++ t) :=
      onward_append_cons hd (toLineEnd?_of_isInked hline.1 t)
        (directive?_of_isInked hd hline.1 htrim ht) true s
    have hstay : replace (directive canned.name) canned.text.toList (line ++ t) =
        line ++ onward (directive canned.name) canned.text.toList false t :=
      onward_of_isInked canned.text.toList hd hline.1 htrim ht
    have hend : IsLineEnd (onward (directive canned.name) canned.text.toList false t) := by
      rcases ht with rfl | ⟨t, rfl⟩
      · exact .inl rfl
      · rw [onward_cons hd, if_neg Bool.false_ne_true]
        exact .inr ⟨_, rfl⟩
    simp only [expandWith, List.foldl_cons] at ih ⊢
    rw [hreplace, hstay]
    exact ih hend _

/-! ## Lines -/

/-- The lines that the inclusion of the canned policies leaves of some lines. -/
def expandLines (ls : List (List Char)) : List (List Char) :=
  if ls = [] then [] else lines (expand (unlines ls))

/-- A separating line stays, with the lines behind it dealt with on their own. -/
lemma lines_expand_of_separates {line : List Char} (hline : Separates line)
    (after : List (List Char)) :
    lines (expand (unlines (line :: after))) = line :: expandLines after := by
  obtain ⟨hself, hbehind⟩ := expandWith_of_separates hline Canned.all
  rw [expandLines]
  split_ifs with hafter
  · subst hafter
    change lines (expandWith Canned.all line) = [line]
    rw [hself, lines_of_not_mem hline.1.1]
  · rw [← List.singleton_append, unlines_append (List.cons_ne_nil _ _) hafter]
    change lines (expandWith Canned.all (line ++ '\n' :: unlines after)) = _
    rw [hbehind, lines_append_cons, lines_of_not_mem hline.1.1]
    rfl

/-- What is around a separating line is dealt with on its own. -/
lemma expandLines_append {line : List Char} (hline : Separates line)
    (before after : List (List Char)) :
    expandLines (before ++ line :: after) = expandLines before ++ line :: expandLines after := by
  have hne : before ++ line :: after ≠ [] := by simp
  rw [expandLines, if_neg hne]
  cases hbefore : before with
  | nil => exact lines_expand_of_separates hline after
  | cons first more =>
    obtain ⟨t, ht, hend⟩ : ∃ t, unlines (line :: after) = line ++ t ∧ IsLineEnd t := by
      cases after with
      | nil => exact ⟨[], by simp [unlines], .inl rfl⟩
      | cons next rest => exact ⟨_, rfl, .inr ⟨_, rfl⟩⟩
    have hexpand : expand (unlines (first :: more ++ line :: after)) =
        expand (unlines (first :: more)) ++ '\n' :: expand (unlines (line :: after)) := by
      rw [unlines_append (List.cons_ne_nil _ _) (List.cons_ne_nil _ _), ht]
      exact expandWith_append hline hend Canned.all _
    have hfirst : expandLines (first :: more) = lines (expand (unlines (first :: more))) :=
      if_neg (List.cons_ne_nil _ _)
    rw [hexpand, lines_append_cons, lines_expand_of_separates hline, hfirst]

/-- The lines `ls'` are left of `ls` when the canned policies are included: a line with a directive
stands for the lines of its policy, and blank lines can be left out if there is nothing but blank
lines between them and a directive. All other lines stay. -/
inductive Expands : List (List Char) → List (List Char) → Prop where
  /-- There are no lines. -/
  | nil : Expands [] []
  /-- A line without a directive stays. -/
  | keep {line : List Char} {ls ls' : List (List Char)} (hline : ¬IsInclude line)
      (h : Expands ls ls') : Expands (line :: ls) (line :: ls')
  /-- Where directives and blank lines follow each other, blank lines can be left out. -/
  | region {region new ls ls' : List (List Char)}
      (hregion : ∀ line ∈ region, IsInclude line ∨ ∀ c ∈ line, isBlank c = true)
      (hinclude : ∃ line ∈ region, IsInclude line) (hnew : Thins (region.flatMap linesFor) new)
      (h : Expands ls ls') : Expands (region ++ ls) (new ++ ls')

/-- Lines can be dealt with in two parts. -/
lemma Expands.append {ls ls' ms ms' : List (List Char)} (h : Expands ls ls')
    (h' : Expands ms ms') : Expands (ls ++ ms) (ls' ++ ms') := by
  induction h with
  | nil => exact h'
  | keep hline h ih => exact .keep hline ih
  | region hregion hinclude hnew h ih =>
    rw [List.append_assoc, List.append_assoc]
    exact .region hregion hinclude hnew ih

/-- Lines without directives stay. -/
lemma Expands.refl {ls : List (List Char)} (h : ∀ line ∈ ls, ¬IsInclude line) : Expands ls ls := by
  induction ls with
  | nil => exact .nil
  | cons line ls ih =>
    obtain ⟨hline, hls⟩ := List.forall_mem_cons.mp h
    exact .keep hline (ih hls)

/-- Blank lines stay if there is no directive. -/
lemma expand_of_blank {s : List Char} (hs : ∀ c ∈ s, isBlank c = true) : expand s = s := by
  suffices h : ∀ among, expandWith among s = s from h Canned.all
  intro among
  induction among with
  | nil => rfl
  | cons canned among ih =>
    have hreplace : replace (directive canned.name) canned.text.toList s = s :=
      onward_of_blank (isDirective_canned canned) true hs
    rw [expandWith, List.foldl_cons, hreplace]
    exact ih

/-- The lines of a text expand to those of its expansion.

**Proof sketch.** Strong induction on the number of lines. If there is a separating line, the
lines before it and those behind it are dealt with on their own. Otherwise all lines are blank or
have directives, so they form one region, or there is nothing to include. -/
lemma expands_expandLines {ls : List (List Char)} (hls : ∀ line ∈ ls, '\n' ∉ line) :
    Expands ls (expandLines ls) := by
  obtain ⟨n, hn⟩ : ∃ n, ls.length = n := ⟨_, rfl⟩
  induction n using Nat.strong_induction_on generalizing ls with
  | _ n ih =>
  by_cases hseparates : ∃ line ∈ ls, Separates line
  · obtain ⟨line, hmem, hline⟩ := hseparates
    obtain ⟨before, after, rfl⟩ := List.append_of_mem hmem
    obtain ⟨hbefore, hafter⟩ := List.forall_mem_append.mp hls
    obtain ⟨-, hafter⟩ := List.forall_mem_cons.mp hafter
    simp only [List.length_append, List.length_cons] at hn
    rw [expandLines_append hline]
    exact (ih before.length (by omega) hbefore rfl).append
      (.keep hline.2 (ih after.length (by omega) hafter rfl))
  have hregion : ∀ line ∈ ls, IsInclude line ∨ ∀ c ∈ line, isBlank c = true := by
    intro line hline
    by_cases hinclude : IsInclude line
    · exact .inl hinclude
    refine .inr fun c hc => ?_
    by_contra hink
    exact hseparates ⟨line, hline, ⟨hls line hline, c, hc, by simpa using hink⟩, hinclude⟩
  rw [expandLines]
  split_ifs with hnil
  · subst hnil
    exact .nil
  have hlines := lines_unlines hls hnil
  by_cases hinclude : ∃ line ∈ ls, IsInclude line
  · have hnew : Thins (ls.flatMap linesFor) (lines (expand (unlines ls))) := by
      have hthins := thins_expand (unlines ls)
      rwa [hlines] at hthins
    have hall := Expands.region hregion hinclude hnew .nil
    rwa [List.append_nil, List.append_nil] at hall
  · have hblank : ∀ line ∈ ls, ∀ c ∈ line, isBlank c = true := fun line hline =>
      (hregion line hline).resolve_left fun h => hinclude ⟨line, hline, h⟩
    have htext : ∀ c ∈ unlines ls, isBlank c = true := by
      intro c hc
      rcases mem_unlines hc with rfl | ⟨line, hline, hc⟩
      · decide
      · exact hblank line hline c hc
    rw [expand_of_blank htext, hlines]
    exact .refl fun line hline h => hinclude ⟨line, hline, h⟩

/-- The lines of a text expand to those of its expansion. -/
lemma expands_lines (s : List Char) : Expands (lines s) (lines (expand s)) := by
  have hfeed : ∀ line ∈ lines s, '\n' ∉ line := fun line => not_mem_of_mem_lines
  have hne : lines s ≠ [] := by
    rw [lines_eq_splitOn]
    exact List.splitOn_ne_nil '\n' s
  have hexpands := expands_expandLines hfeed
  rwa [expandLines, if_neg hne, unlines_lines] at hexpands

end HttpAudit.Include
