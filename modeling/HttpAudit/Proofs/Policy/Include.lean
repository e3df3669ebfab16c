import HttpAudit.Policy.Include
import HttpAudit.Proofs.Text.Lines
import Mathlib.Tactic.Common

set_option relaxedAutoImplicit false
set_option autoImplicit false

/-!
# Including rules line by line

Directives are replaced in the whole text at once, and the blanks around a directive, which are
replaced with it, may reach over several lines. Still the lines that are not blank come out as if
each line were looked at alone.

## Main definitions

* `HttpAudit.Include.IsDirective` — a text that can be a directive.
* `HttpAudit.Include.EndsLine` — a text after which a line starts.
* `HttpAudit.Include.linesWith` — the lines that a line stands for, with one directive.
* `HttpAudit.Include.linesFor` — the lines that a line stands for, with the canned policies.

## Main results

* `HttpAudit.Include.thins_replace` — replacing a directive, line by line.
* `HttpAudit.Include.thins_expand` — including the canned policies, line by line.
-/

namespace HttpAudit.Include

open Text

/-! ## Directives -/

/-- A text that can be a directive: it is on one line, and does neither start nor end with a
blank. -/
structure IsDirective (directive : List Char) : Prop where
  /-- It does not start with a blank. -/
  first : directive.head?.any (fun c => !isBlank c) = true
  /-- It does not end with a blank. -/
  last : directive.getLast?.any (fun c => !isBlank c) = true
  /-- It is on one line. -/
  oneLine : '\n' ∉ directive

/-- A directive is not empty. -/
lemma IsDirective.ne_nil {directive : List Char} (h : IsDirective directive) : directive ≠ [] := by
  rintro rfl
  cases h.first

/-- The text is empty or ends with a line feed, so that another line starts behind it. -/
def EndsLine (body : List Char) : Prop :=
  body = [] ∨ ∃ lines, body = lines ++ ['\n']

/-- The lines that a line stands for: those of `body` for a line with the directive, and else the
line itself. -/
def linesWith (directive body line : List Char) : List (List Char) :=
  if trim line = directive then lines body else [line]

/-! ## The place of a directive -/

/-- The blanks that are replaced behind a directive reach to the end of a line. -/
lemma toLineEnd?_eq_some {s b after : List Char} (h : toLineEnd? s = some (b, after)) :
    s = b ++ after ∧ (∀ c ∈ b, isBlank c = true) ∧ IsLineEnd after := by
  induction s generalizing b with
  | nil =>
    simp only [toLineEnd?, Option.some.injEq, Prod.mk.injEq] at h
    obtain ⟨rfl, rfl⟩ := h
    exact ⟨rfl, by simp, .inl rfl⟩
  | cons c s ih =>
    simp only [toLineEnd?, Option.ite_none_right_eq_some] at h
    obtain ⟨hblank, h⟩ := h
    cases hs : toLineEnd? s with
    | some found =>
      simp only [hs, Option.some.injEq, Prod.mk.injEq] at h
      obtain ⟨rfl, rfl⟩ := h
      obtain ⟨rfl, hb, hafter⟩ := ih hs
      exact ⟨rfl, List.forall_mem_cons.mpr ⟨hblank, hb⟩, hafter⟩
    | none =>
      simp only [hs, beq_iff_eq, Option.ite_none_right_eq_some, Option.some.injEq,
        Prod.mk.injEq] at h
      obtain ⟨rfl, rfl, rfl⟩ := h
      exact ⟨rfl, by simp, .inr ⟨s, rfl⟩⟩

/-- Blanks before the end of a line reach to the end of a line. -/
lemma toLineEnd?_ne_none {b t : List Char} (hb : ∀ c ∈ b, isBlank c = true) (ht : IsLineEnd t) :
    toLineEnd? (b ++ t) ≠ none := by
  induction b with
  | nil =>
    have hfeed : isBlank '\n' = true := by decide
    rcases ht with rfl | ⟨t, rfl⟩
    · simp [toLineEnd?]
    · cases hs : toLineEnd? t <;> simp [toLineEnd?, hfeed, hs]
  | cons c b ih =>
    obtain ⟨hc, hb⟩ := List.forall_mem_cons.mp hb
    obtain ⟨found, hfound⟩ := Option.ne_none_iff_exists'.mp (ih hb)
    simp [toLineEnd?, hc, hfound]

section Replace

variable {directive body : List Char}

/-- A directive that is found stands between blanks, from the start of the text to the end of a
line. -/
lemma directive?_eq_some {s b after : List Char} (h : directive? directive s = some (b, after)) :
    ∃ lead, s = lead ++ directive ++ b ++ after ∧ (∀ c ∈ lead, isBlank c = true) ∧
      (∀ c ∈ b, isBlank c = true) ∧ IsLineEnd after := by
  simp only [directive?, Option.ite_none_right_eq_some, List.isPrefixOf_iff_prefix] at h
  obtain ⟨⟨t, ht⟩, h⟩ := h
  rw [← ht, List.drop_left] at h
  obtain ⟨rfl, hb, hafter⟩ := toLineEnd?_eq_some h
  refine ⟨s.takeWhile isBlank, ?_, fun c hc => List.mem_takeWhile_imp hc, hb, hafter⟩
  rw [List.append_assoc, List.append_assoc, ht, trimLeft, List.takeWhile_append_dropWhile]

/-- What is behind a directive is shorter than the text that it is found in. -/
lemma length_lt_of_directive?_eq_some (hd : IsDirective directive) {s b after : List Char}
    (h : directive? directive s = some (b, after)) : after.length < s.length := by
  obtain ⟨lead, rfl, -⟩ := directive?_eq_some h
  have hpos := List.length_pos_of_ne_nil hd.ne_nil
  simp only [List.length_append]
  omega

/-- If no directive is found at the start of a text, it is not on the first line. -/
lemma trim_ne_of_directive?_eq_none (hd : IsDirective directive) {line t : List Char}
    (ht : IsLineEnd t) (h : directive? directive (line ++ t) = none) : trim line ≠ directive := by
  intro htrim
  obtain ⟨b, b', hline, hb, hb'⟩ := exists_trim line
  rw [htrim] at hline
  have hstart : trimLeft (line ++ t) = directive ++ (b' ++ t) := by
    rw [hline, List.append_assoc, List.append_assoc]
    refine trimLeft_append hb ?_
    obtain ⟨c, hc, hblank⟩ := (Option.any_eq_true _ _).mp hd.first
    rw [List.head?_append, hc]
    exact hblank
  have hprefix : directive.isPrefixOf (directive ++ (b' ++ t)) = true :=
    List.isPrefixOf_iff_prefix.mpr (List.prefix_append directive _)
  rw [directive?, hstart, if_pos hprefix, List.drop_left] at h
  exact toLineEnd?_ne_none hb' ht h

/-! ## Replacing a directive -/

/-- The text with the directive replaced, from a place on that is the start of a line or not. -/
def onward (directive body : List Char) (lineStart : Bool) (s : List Char) : List Char :=
  replaceFrom directive body s.length lineStart s

/-- More fuel than a text is long does not matter. -/
lemma replaceFrom_congr (hd : IsDirective directive) {m n : Nat} {lineStart : Bool}
    {s : List Char} (hm : s.length ≤ m) (hn : s.length ≤ n) :
    replaceFrom directive body m lineStart s = replaceFrom directive body n lineStart s := by
  induction m generalizing n lineStart s with
  | zero =>
    obtain rfl := List.eq_nil_of_length_eq_zero (Nat.le_zero.mp hm)
    cases n <;> rfl
  | succ m ih =>
    cases s with
    | nil => cases n <;> rfl
    | cons c s =>
      rw [List.length_cons] at hm hn
      obtain ⟨n, rfl⟩ : ∃ k, n = k + 1 := ⟨n - 1, by omega⟩
      simp only [replaceFrom]
      cases hfound : (if lineStart = true then directive? directive (c :: s) else none) with
      | none => exact congrArg (c :: ·) (ih (by omega) (by omega))
      | some found =>
        obtain ⟨b, after⟩ := found
        have hshorter : after.length < (c :: s).length :=
          length_lt_of_directive?_eq_some hd (Option.ite_none_right_eq_some.mp hfound).2
        rw [List.length_cons] at hshorter
        exact congrArg (body ++ ·) (ih (by omega) (by omega))

/-- A directive is replaced, and anything else is passed over. -/
lemma onward_cons (hd : IsDirective directive) (lineStart : Bool) (c : Char) (s : List Char) :
    onward directive body lineStart (c :: s) =
      match (if lineStart then directive? directive (c :: s) else none) with
      | some (b, after) => body ++ onward directive body (b.getLast? == some '\n') after
      | none => c :: onward directive body (c == '\n') s := by
  rw [onward, List.length_cons, replaceFrom]
  cases hfound : (if lineStart = true then directive? directive (c :: s) else none) with
  | none => rfl
  | some found =>
    obtain ⟨b, after⟩ := found
    have hshorter : after.length < (c :: s).length :=
      length_lt_of_directive?_eq_some hd (Option.ite_none_right_eq_some.mp hfound).2
    simp only
    exact congrArg (body ++ ·) (replaceFrom_congr hd (Nat.le_of_lt_succ hshorter) le_rfl)

/-- A line is passed over from its second character on, since no directive starts there. -/
lemma onward_append (hd : IsDirective directive) {line : List Char} (hline : '\n' ∉ line)
    (t : List Char) :
    onward directive body false (line ++ t) = line ++ onward directive body false t := by
  induction line with
  | nil => rfl
  | cons c line ih =>
    obtain ⟨hc, hline⟩ := List.ne_and_not_mem_of_not_mem_cons hline
    have hfeed : (c == '\n') = false := beq_eq_false_iff_ne.mpr hc.symm
    rw [List.cons_append, onward_cons hd, hfeed, ih hline]
    rfl

variable (body) in
/-- At the start of a text a directive is replaced, or the first line is passed over. -/
lemma onward_cases (hd : IsDirective directive) (s : List Char) :
    (∃ lead b after, s = lead ++ directive ++ b ++ after ∧ (∀ c ∈ lead, isBlank c = true) ∧
        (∀ c ∈ b, isBlank c = true) ∧ IsLineEnd after ∧
        onward directive body true s =
          body ++ onward directive body (b.getLast? == some '\n') after) ∨
      ∃ line t, s = line ++ t ∧ '\n' ∉ line ∧ IsLineEnd t ∧ trim line ≠ directive ∧
        onward directive body true s = line ++ onward directive body false t := by
  cases hfound : directive? directive s with
  | some found =>
    obtain ⟨b, after⟩ := found
    obtain ⟨lead, hs, hlead, hb, hafter⟩ := directive?_eq_some hfound
    refine .inl ⟨lead, b, after, hs, hlead, hb, hafter, ?_⟩
    cases s with
    | nil => simp [hd.ne_nil] at hs
    | cons c s => rw [onward_cons hd, if_pos rfl, hfound]
  | none =>
    obtain ⟨line, t, hs, hline, ht⟩ := exists_isLineEnd s
    refine .inr ⟨line, t, hs, hline, ht, trim_ne_of_directive?_eq_none hd ht (hs ▸ hfound), ?_⟩
    rw [← onward_append hd hline, ← hs]
    cases s with
    | nil => rfl
    | cons c s => rw [onward_cons hd, onward_cons hd, if_pos rfl, hfound, if_neg Bool.false_ne_true]

/-- What the lines of a text stand for. -/
def standsFor (directive body s : List Char) : List (List Char) :=
  (lines s).flatMap (linesWith directive body)

/-- What is around a line feed stands for itself. -/
lemma standsFor_append_cons (s t : List Char) :
    standsFor directive body (s ++ '\n' :: t) =
      standsFor directive body s ++ standsFor directive body t := by
  rw [standsFor, lines_append_cons, List.flatMap_append, standsFor, standsFor]

/-- A line stands for the lines of the body if it has the directive, and else for itself. -/
lemma standsFor_line {line : List Char} (hline : '\n' ∉ line) :
    standsFor directive body line = linesWith directive body line := by
  rw [standsFor, lines_of_not_mem hline, List.flatMap_singleton]

/-- No directive is on a blank line. -/
lemma trim_ne_of_blank (hd : IsDirective directive) {line : List Char}
    (h : ∀ c ∈ line, isBlank c = true) : trim line ≠ directive := by
  intro htrim
  obtain ⟨c, hc, hblank⟩ := (Option.any_eq_true _ _).mp hd.first
  obtain ⟨b, b', hline, -⟩ := exists_trim line
  have hmem : c ∈ line := by
    rw [hline, htrim]
    simp [List.mem_of_head? hc]
  rw [h c hmem] at hblank
  cases hblank

variable (body) in
/-- A blank text stands for its lines, which are blank. -/
lemma standsFor_of_blank (hd : IsDirective directive) {s : List Char}
    (hs : ∀ c ∈ s, isBlank c = true) :
    standsFor directive body s = lines s ∧ Thins (lines s) [] := by
  have hblank : ∀ line ∈ lines s, ∀ c ∈ line, isBlank c = true :=
    fun line hline c hc => hs c (mem_of_mem_lines hline hc)
  refine ⟨?_, .of_blank hblank⟩
  have hself : ∀ line ∈ lines s, linesWith directive body line = [line] :=
    fun line hline => if_neg (trim_ne_of_blank hd (hblank line hline))
  rw [standsFor, List.flatMap_congr hself, List.flatMap_singleton']

/-- A directive between blanks, which may reach over several lines, stands for the lines of its
body, apart from blank lines. -/
lemma thins_directive (hd : IsDirective directive) {lead b : List Char}
    (hlead : ∀ c ∈ lead, isBlank c = true) (hb : ∀ c ∈ b, isBlank c = true) :
    Thins (standsFor directive body (lead ++ directive ++ b)) (lines body) := by
  -- only the first line behind the directive is on the line with it
  obtain ⟨b₁, b₂, rfl, hfeed₁, hend⟩ := exists_isLineEnd b
  obtain ⟨hb₁, hb₂⟩ := List.forall_mem_append.mp hb
  have hline : ∀ l : List Char, (∀ c ∈ l, isBlank c = true) → '\n' ∉ l →
      standsFor directive body (l ++ directive ++ b₁) = lines body := by
    intro l hl hfeed
    have hone : '\n' ∉ l ++ directive ++ b₁ := by simp [hfeed, hd.oneLine, hfeed₁]
    rw [standsFor_line hone, linesWith, if_pos (trim_append hl hb₁ hd.first hd.last)]
  have hfirst : Thins (standsFor directive body (lead ++ directive ++ b₁)) (lines body) := by
    by_cases hfeed : '\n' ∈ lead
    · -- and only the last line before it
      obtain ⟨u, v, huv, hu⟩ := List.eq_append_cons_of_mem (List.mem_reverse.mpr hfeed)
      obtain rfl : lead = v.reverse ++ '\n' :: u.reverse := by
        rw [← List.reverse_reverse lead, huv]
        simp
      obtain ⟨hv, hu'⟩ := List.forall_mem_append.mp hlead
      obtain ⟨hbefore, hthins⟩ := standsFor_of_blank body hd hv
      have hrest := hline u.reverse (List.forall_mem_cons.mp hu').2 (by simpa using hu)
      rw [List.append_assoc, List.append_assoc, List.cons_append, standsFor_append_cons, hbefore,
        ← List.append_assoc, hrest]
      exact hthins.append (.refl (lines body))
    · rw [hline lead hlead hfeed]
      exact .refl (lines body)
  rcases hend with rfl | ⟨b₂, rfl⟩
  · rwa [List.append_nil]
  · obtain ⟨hbehind, hthins⟩ :=
      standsFor_of_blank body hd (List.forall_mem_cons.mp hb₂).2
    rw [← List.append_assoc, standsFor_append_cons, hbehind, ← List.append_nil (lines body)]
    exact hfirst.append hthins

/-- Behind a text after which a line starts, the lines are those of what follows. -/
lemma EndsLine.exists_lines (h : EndsLine body) : ∃ ls, ∀ s, lines (body ++ s) = ls ++ lines s := by
  rcases h with rfl | ⟨ls, rfl⟩
  · exact ⟨[], fun s => rfl⟩
  · refine ⟨lines ls, fun s => ?_⟩
    rw [List.append_assoc, List.singleton_append, lines_append_cons]

/-- Replacing a directive from the start of a line on, line by line.

**Proof sketch.** Strong induction on the length of the text. If the directive is found, it stands
between blanks, and the text goes on at the end of a line. If it is not, then it is not on the first
line, which is passed over (`onward_cases`). -/
lemma thins_onward (hd : IsDirective directive) (hbody : EndsLine body) (s : List Char) :
    Thins (standsFor directive body s) (lines (onward directive body true s)) := by
  obtain ⟨n, hn⟩ : ∃ n, s.length = n := ⟨_, rfl⟩
  induction n using Nat.strong_induction_on generalizing s with
  | _ n ih =>
  -- at the end of a line, the text is dealt with from the start of the next line on
  have hend : ∀ u v t : List Char, IsLineEnd t → t.length ≤ n →
      Thins (standsFor directive body u) (lines v) →
      Thins (standsFor directive body (u ++ t)) (lines (v ++ onward directive body false t)) := by
    intro u v t ht htn h
    rcases ht with rfl | ⟨t, rfl⟩
    · rwa [List.append_nil, show onward directive body false [] = [] from rfl, List.append_nil]
    · have hstep : onward directive body false ('\n' :: t) = '\n' :: onward directive body true t :=
        onward_cons hd false '\n' t
      rw [List.length_cons] at htn
      rw [hstep, standsFor_append_cons, lines_append_cons]
      exact h.append (ih t.length (by omega) t rfl)
  rcases onward_cases body hd s with
    ⟨lead, b, after, rfl, hlead, hb, hafter, honward⟩ | ⟨line, t, rfl, hline, ht, htrim, honward⟩
  · have hdirective : Thins (standsFor directive body (lead ++ directive ++ b)) (lines body) :=
      thins_directive hd hlead hb
    rw [honward]
    have hpos := List.length_pos_of_ne_nil hd.ne_nil
    simp only [List.length_append] at hn
    cases hlast : b.getLast? == some '\n' with
    | false => exact hend _ _ after hafter (by omega) hdirective
    | true =>
      obtain ⟨ls, hls⟩ := hbody.exists_lines
      have hbodyLines : lines body = ls ++ [[]] := by
        have hnil := hls []
        rwa [List.append_nil] at hnil
      rw [hls]
      refine Thins.trans ?_ (Thins.append (.refl ls) (ih after.length (by omega) after rfl))
      rcases hafter with rfl | ⟨t, rfl⟩
      · rwa [List.append_nil, (standsFor_of_blank body hd (s := []) (by simp)).1,
          show lines [] = [[]] from rfl, ← hbodyLines]
      · have hempty :
            standsFor directive body ('\n' :: t) = [[]] ++ standsFor directive body t := by
          rw [← List.nil_append ('\n' :: t), standsFor_append_cons,
            (standsFor_of_blank body hd (s := []) (by simp)).1]
          rfl
        rw [standsFor_append_cons, hempty, ← List.append_assoc, ← hbodyLines]
        exact hdirective.append (.refl _)
  · rw [honward]
    rw [List.length_append] at hn
    refine hend line line t ht (by omega) ?_
    rw [standsFor_line hline, linesWith, if_neg htrim, lines_of_not_mem hline]
    exact .refl [line]

/-- Replacing a directive comes to looking at each line, apart from blank lines, some of which may
be left out. -/
lemma thins_replace (hd : IsDirective directive) (hbody : EndsLine body) (s : List Char) :
    Thins ((lines s).flatMap (linesWith directive body)) (lines (replace directive body s)) :=
  thins_onward hd hbody s

end Replace

/-! ## The canned policies -/

/-- The lines that a line stands for, where some of the canned policies can be included. -/
def linesAmong (among : List Canned) (line : List Char) : List (List Char) :=
  match among.find? fun canned => trim line == directive canned.name with
  | some canned => lines canned.text.toList
  | none => [line]

/-- The lines that a line stands for: those of a canned policy for a line with a directive that
includes it, and else the line itself. -/
def linesFor (line : List Char) : List (List Char) :=
  linesAmong Canned.all line

/-- The directives that include the canned policies are directives. -/
lemma isDirective_canned (canned : Canned) : IsDirective (directive canned.name) := by
  cases canned <;> exact ⟨by decide, by decide, by decide⟩

set_option maxRecDepth 8000 in
/-- A canned policy ends with a line feed, and includes none itself. -/
lemma canned_text (canned : Canned) :
    canned.text.toList.getLast? = some '\n' ∧
      ((lines canned.text.toList).all fun line =>
        Canned.all.all fun other => trim line != directive other.name) = true := by
  -- the kernel is slow at the characters of a text, so these are written out first
  cases canned <;>
    delta Canned.text Canned.debugText Canned.standardText Canned.strictText Canned.strictRemoved
  all_goals repeat rewrite [String.toList_append]
  all_goals repeat rewrite [String.toList_ofList]
  all_goals exact ⟨rfl, by decide +kernel⟩

/-- A line starts behind each canned policy. -/
lemma endsLine_canned (canned : Canned) : EndsLine canned.text.toList :=
  .inr (List.getLast?_eq_some_iff.mp (canned_text canned).1)

/-- No line of a canned policy includes one. -/
lemma trim_ne_directive {canned : Canned} {line : List Char}
    (h : line ∈ lines canned.text.toList) (other : Canned) : trim line ≠ directive other.name := by
  have hline := List.all_eq_true.mp (canned_text canned).2 line h
  exact ne_of_beq_false (by simpa using List.all_eq_true.mp hline other (by cases other <;> decide))

/-- A line without a directive stands for itself. -/
lemma linesAmong_of_trim_ne {among : List Canned} {line : List Char}
    (h : ∀ canned ∈ among, trim line ≠ directive canned.name) : linesAmong among line = [line] := by
  have hnone : among.find? (fun canned => trim line == directive canned.name) = none :=
    List.find?_eq_none.mpr fun canned hmem => by simpa using h canned hmem
  rw [linesAmong, hnone]

/-- The lines that the first canned policy is replaced by stand for themselves, and the others for
what they stand for without it. -/
lemma flatMap_linesAmong (canned : Canned) (among : List Canned) (line : List Char) :
    (linesWith (directive canned.name) canned.text.toList line).flatMap (linesAmong among) =
      linesAmong (canned :: among) line := by
  by_cases htrim : trim line = directive canned.name
  · have hself : (lines canned.text.toList).flatMap (linesAmong among) =
        (lines canned.text.toList).flatMap fun line => [line] := by
      refine List.flatMap_congr fun other hother => ?_
      exact linesAmong_of_trim_ne fun next _ => trim_ne_directive hother next
    rw [linesWith, if_pos htrim, hself, List.flatMap_singleton']
    simp [linesAmong, htrim]
  · rw [linesWith, if_neg htrim, List.flatMap_singleton]
    simp [linesAmong, htrim]

/-- The text with some of the canned policies included, one after the other. -/
def expandWith (among : List Canned) (s : List Char) : List Char :=
  among.foldl (fun s canned => replace (directive canned.name) canned.text.toList s) s

/-- Including canned policies, one after the other, comes to looking at each line, apart from blank
lines, some of which may be left out. -/
lemma thins_expandWith (among : List Canned) (s : List Char) :
    Thins ((lines s).flatMap (linesAmong among)) (lines (expandWith among s)) := by
  induction among generalizing s with
  | nil =>
    rw [show linesAmong [] = fun line => [line] from rfl, List.flatMap_singleton']
    exact .refl (lines s)
  | cons canned among ih =>
    have hblank : ∀ line : List Char, (∀ c ∈ line, isBlank c = true) →
        linesAmong among line = [line] := fun line hline =>
      linesAmong_of_trim_ne fun next _ => trim_ne_of_blank (isDirective_canned next) hline
    have hfirst :=
      (thins_replace (isDirective_canned canned) (endsLine_canned canned) s).flatMap hblank
    simp only [List.flatMap_assoc, flatMap_linesAmong] at hfirst
    exact hfirst.trans (ih _)

/-- Including the canned policies in a text comes to looking at each line, apart from blank lines,
some of which may be left out. -/
lemma thins_expand (s : List Char) : Thins ((lines s).flatMap linesFor) (lines (expand s)) :=
  thins_expandWith Canned.all s

end HttpAudit.Include
