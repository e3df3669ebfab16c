import HttpAudit.Proofs.Policy.Expansion
import HttpAudit.Proofs.Text.Seam

set_option relaxedAutoImplicit false
set_option autoImplicit false

/-!
# Directives next to each other

The blanks behind a directive are replaced with it up to the end of a line. If the blank lines
between two directives end with an empty one, then the first directive takes them all, and the
second one starts where they end: what the two are replaced by stands together without a line feed.
For a text that starts or ends a line this makes no difference, but the last line of another one
is joined to its first line.

## Main definitions

* `HttpAudit.Include.Abuts` — what two directives are replaced by stands together.
* `HttpAudit.Include.Gaps` — a text as the pieces between its directives.
* `HttpAudit.Include.GapsBehind` — the text behind a directive as such pieces.

## Main results

* `HttpAudit.Include.exists_gaps` — replacing a directive leaves the pieces between, and what
  stands together.
* `HttpAudit.Include.inkedLines_replace_iff` — when replacing a directive comes to looking at each
  line.
-/

namespace HttpAudit.Include

open Text

/-! ## Lines between directives -/

/-- The first lines are blank, the last of these is empty, and there is a directive behind them. -/
def Meets (directive : List Char) (ls : List (List Char)) : Prop :=
  (ls.takeWhile fun line => line.all isBlank).getLast? = some [] ∧
    ∃ next ∈ (ls.dropWhile fun line => line.all isBlank).head?, trim next = directive

/-- There are two lines with the directive that have nothing but blank lines between them, and at
least one, of which the last one is empty. -/
def Abuts (directive : List Char) : List (List Char) → Prop
  | [] => False
  | line :: behind => (trim line = directive ∧ Meets directive behind) ∨ Abuts directive behind

instance (directive : List Char) (ls : List (List Char)) : Decidable (Meets directive ls) :=
  inferInstanceAs (Decidable (_ ∧ ∃ next ∈ List.head? _, _))

instance decidableAbuts (directive : List Char) : (ls : List (List Char)) →
    Decidable (Abuts directive ls)
  | [] => inferInstanceAs (Decidable False)
  | _ :: behind =>
    have := decidableAbuts directive behind
    inferInstanceAs (Decidable (_ ∨ _))

section Lines

variable {directive : List Char} {bs ls : List (List Char)}
  (hbs : ∀ line ∈ bs, line.all isBlank = true)

include hbs

/-- No directive is on blank lines. -/
lemma abuts_append_of_blank (hd : IsDirective directive) :
    Abuts directive (bs ++ ls) ↔ Abuts directive ls := by
  induction bs with
  | nil => rfl
  | cons line bs ih =>
    obtain ⟨hline, hbs⟩ := List.forall_mem_cons.mp hbs
    have htrim := trim_ne_of_blank hd (List.all_eq_true.mp hline)
    rw [List.cons_append, Abuts, ih hbs]
    simp [htrim]

/-- Behind blank lines there is a directive if the next line has it. -/
lemma meets_append_of_blank {next : List Char} (hnext : next.all isBlank = false) :
    Meets directive (bs ++ next :: ls) ↔ bs.getLast? = some [] ∧ trim next = directive := by
  have htake : (bs ++ next :: ls).takeWhile (fun line => line.all isBlank) = bs := by
    rw [List.takeWhile_append_of_pos hbs, List.takeWhile_cons_of_neg (by simp [hnext]),
      List.append_nil]
  have hdrop : (bs ++ next :: ls).dropWhile (fun line => line.all isBlank) = next :: ls := by
    rw [List.dropWhile_append_of_pos hbs, List.dropWhile_cons_of_neg (by simp [hnext])]
  rw [Meets, htake, hdrop]
  simp

/-- Behind blank lines alone there is no directive. -/
lemma not_meets_of_blank : ¬Meets directive bs := by
  rintro ⟨-, next, hnext, -⟩
  rw [List.dropWhile_eq_nil_iff.mpr hbs] at hnext
  cases hnext

end Lines

/-! ## The place of a directive -/

/-- Blanks are replaced as far as the last end of a line among them. -/
lemma toLineEnd?_halts {s b after : List Char} (h : toLineEnd? s = some (b, after)) :
    after = [] ∨ ∃ t, after = '\n' :: t ∧ toLineEnd? t = none := by
  induction s generalizing b with
  | nil =>
    simp only [toLineEnd?, Option.some.injEq, Prod.mk.injEq] at h
    exact .inl h.2.symm
  | cons c s ih =>
    simp only [toLineEnd?, Option.ite_none_right_eq_some] at h
    obtain ⟨-, h⟩ := h
    cases hs : toLineEnd? s with
    | some found =>
      obtain ⟨b', after'⟩ := found
      simp only [hs, Option.some.injEq, Prod.mk.injEq] at h
      obtain ⟨-, rfl⟩ := h
      exact ih hs
    | none =>
      simp only [hs, beq_iff_eq, Option.ite_none_right_eq_some, Option.some.injEq,
        Prod.mk.injEq] at h
      obtain ⟨rfl, -, rfl⟩ := h
      exact .inr ⟨s, rfl, hs⟩

/-- Behind a directive and the blanks that belong to it the text ends, or goes on with a line feed,
and then with a line that is not blank. -/
lemma directive?_halts {directive s b after : List Char}
    (h : directive? directive s = some (b, after)) :
    after = [] ∨ ∃ t, after = '\n' :: t ∧ toLineEnd? t = none := by
  simp only [directive?, Option.ite_none_right_eq_some] at h
  exact toLineEnd?_halts h.2

/-- Where blanks do not reach to the end of a line, the first line is not blank. -/
lemma exists_isInked {t : List Char} (h : toLineEnd? t = none) :
    ∃ line t', t = line ++ t' ∧ IsInked line ∧ IsLineEnd t' := by
  obtain ⟨line, t', rfl, hfeed, ht'⟩ := exists_isLineEnd t
  refine ⟨line, t', rfl, ⟨hfeed, ?_⟩, ht'⟩
  by_contra hblank
  simp only [not_exists, not_and, Bool.not_eq_false] at hblank
  exact toLineEnd?_ne_none hblank ht' h

section Place

variable {directive body : List Char}

/-- A directive that is found is replaced. -/
lemma onward_of_some (hd : IsDirective directive) {s b after : List Char}
    (h : directive? directive s = some (b, after)) :
    onward directive body true s =
      body ++ onward directive body (b.getLast? == some '\n') after := by
  obtain ⟨lead, hs, -⟩ := directive?_eq_some h
  cases s with
  | nil => simp [hd.ne_nil] at hs
  | cons c s => rw [onward_cons hd, if_pos rfl, h]

/-- If no directive is found, the first line is passed over. -/
lemma onward_of_none (hd : IsDirective directive) {line t : List Char} (hline : '\n' ∉ line)
    (h : directive? directive (line ++ t) = none) :
    onward directive body true (line ++ t) = line ++ onward directive body false t := by
  rw [← onward_append hd hline]
  cases hs : line ++ t with
  | nil => rfl
  | cons c s => rw [onward_cons hd, onward_cons hd, ← hs, h, ite_self, ite_self]

/-- Before a line that is not blank, the directive is found if it is on this line. -/
lemma directive?_isSome_iff (hd : IsDirective directive) {line t : List Char}
    (hline : IsInked line) (ht : IsLineEnd t) :
    (directive? directive ('\n' :: (line ++ t))).isSome ↔ trim line = directive := by
  have hfeed : isBlank '\n' = true := by decide
  have hskip : directive? directive ('\n' :: (line ++ t)) = directive? directive (line ++ t) := by
    rw [directive?, trimLeft, List.dropWhile_cons_of_pos hfeed, directive?, trimLeft]
  rw [hskip]
  constructor
  · intro hsome
    by_contra htrim
    rw [directive?_of_isInked hd hline htrim ht] at hsome
    cases hsome
  · intro htrim
    rw [Option.isSome_iff_ne_none]
    exact fun hnone => trim_ne_of_directive?_eq_none hd ht hnone htrim

end Place

/-- The last line of a text is empty if the text is or if it ends with a line feed. -/
lemma getLast?_lines_eq_nil_iff (s : List Char) :
    (lines s).getLast? = some [] ↔ s = [] ∨ s.getLast? = some '\n' := by
  rcases List.eq_nil_or_concat s with rfl | ⟨u, c, rfl⟩
  · simp [lines]
  · by_cases hc : c = '\n'
    · subst hc
      simp [List.concat_eq_append, lines_append_cons, lines]
    · obtain ⟨before, line, hu⟩ := exists_lines_concat u
      have hone : lines [c] = [[c]] := lines_of_not_mem (by simpa using Ne.symm hc)
      simp [List.concat_eq_append, lines_append hu hone, hc]

/-- Blanks before a text: blank lines, and blanks on the line where the text starts. -/
lemma exists_lines_before {lead : List Char} (hlead : ∀ c ∈ lead, isBlank c = true) :
    ∃ bs l, '\n' ∉ l ∧ (∀ c ∈ l, isBlank c = true) ∧ (∀ line ∈ bs, line.all isBlank = true) ∧
      ∀ x, lines (lead ++ x) = bs ++ lines (l ++ x) := by
  by_cases hfeed : '\n' ∈ lead
  · obtain ⟨u, v, huv, hu⟩ := List.eq_append_cons_of_mem (List.mem_reverse.mpr hfeed)
    obtain rfl : lead = v.reverse ++ '\n' :: u.reverse := by
      rw [← List.reverse_reverse lead, huv]
      simp
    obtain ⟨hv, hu'⟩ := List.forall_mem_append.mp hlead
    refine ⟨lines v.reverse, u.reverse, by simpa using hu, (List.forall_mem_cons.mp hu').2, ?_,
      fun x => by rw [List.append_assoc, List.cons_append, lines_append_cons]⟩
    exact fun line hline => List.all_eq_true.mpr fun c hc => hv c (mem_of_mem_lines hline hc)
  · exact ⟨[], lead, hfeed, hlead, by simp, fun x => rfl⟩

/-- Blanks behind a text, up to the end of a line: blanks on the line where the text ends, and blank
lines, the last of which is empty if the blanks end with a line feed. -/
lemma exists_lines_behind {b after : List Char} (hb : ∀ c ∈ b, isBlank c = true)
    (hafter : IsLineEnd after) :
    ∃ b₁ bs, '\n' ∉ b₁ ∧ (∀ c ∈ b₁, isBlank c = true) ∧
      (∀ line ∈ bs, line.all isBlank = true) ∧
      (b.getLast? = some '\n' ↔ bs.getLast? = some []) ∧
      ∀ x, '\n' ∉ x → lines (x ++ b ++ after) = (x ++ b₁) :: (bs ++ (lines after).tail) := by
  have hlines : ∀ u, lines (u ++ after) = lines u ++ (lines after).tail := by
    intro u
    rcases hafter with rfl | ⟨t, rfl⟩
    · simp [lines]
    · rw [lines_append_cons]
      simp [lines]
  obtain ⟨b₁, b', rfl, hfeed, hb'⟩ := exists_isLineEnd b
  obtain ⟨hb₁, hblank⟩ := List.forall_mem_append.mp hb
  rcases hb' with rfl | ⟨b₂, rfl⟩
  · refine ⟨b₁, [], hfeed, hb₁, by simp, ?_, fun x hx => ?_⟩
    · rw [List.append_nil]
      simp only [List.getLast?_nil, reduceCtorEq, iff_false]
      exact fun hlast => hfeed (List.mem_of_getLast? hlast)
    · rw [List.append_nil, hlines, lines_of_not_mem (by simp [hx, hfeed])]
      rfl
  · obtain ⟨-, hb₂⟩ := List.forall_mem_cons.mp hblank
    refine ⟨b₁, lines b₂, hfeed, hb₁, fun line hline => ?_, ?_, fun x hx => ?_⟩
    · exact List.all_eq_true.mpr fun c hc => hb₂ c (mem_of_mem_lines hline hc)
    · rw [getLast?_lines_eq_nil_iff]
      rcases List.eq_nil_or_concat b₂ with rfl | ⟨u, c, rfl⟩
      · simp
      · rw [List.concat_eq_append, ← List.cons_append, ← List.append_assoc,
          List.getLast?_concat, List.getLast?_concat]
        simp
    · rw [hlines, ← List.append_assoc, lines_append_cons,
        lines_of_not_mem (by simp [hx, hfeed])]
      rfl

/-! ## The pieces between directives -/

/-- The text `s`, in which each directive is replaced: `first` stands before the first directive,
and behind each of them one of the `gaps`. -/
structure Gaps (directive s first : List Char) (gaps : List (List Char)) : Prop where
  /-- The text with the directive replaced. -/
  onward_eq : ∀ body, onward directive body true s = first ++ gaps.flatMap (body ++ ·)
  /-- The first piece is the start of the text. -/
  isPrefix : first <+: s
  /-- The first directive is at the start of a line. -/
  endsLine_first : gaps ≠ [] → EndsLine first
  /-- Each directive is at the end of a line. -/
  isLineEnd : ∀ gap ∈ gaps, IsLineEnd gap
  /-- The next directive is at the start of a line. -/
  endsLine : ∀ gap ∈ gaps.dropLast, EndsLine gap
  /-- Before the first directive there may be nothing. -/
  isSome_iff : (directive? directive s).isSome ↔ first = [] ∧ gaps ≠ []
  /-- There is nothing between directives if what they are replaced by stands together. -/
  nil_mem_iff : [] ∈ gaps.dropLast ↔ Abuts directive (lines s)

/-- All pieces but the last one. -/
lemma mem_dropLast_cons {α : Type} {x a : α} {l : List α} :
    x ∈ (a :: l).dropLast ↔ l ≠ [] ∧ (x = a ∨ x ∈ l.dropLast) := by
  cases l <;> simp

/-- There is something behind all pieces but the last one. -/
lemma ne_nil_of_mem_dropLast {α : Type} {x : α} {l : List α} (h : x ∈ l.dropLast) : l ≠ [] := by
  rintro rfl
  cases h

section Pieces

variable {directive s first line t : List Char} {gaps : List (List Char)}

/-- A line that is passed over. -/
lemma Gaps.of_none (hd : IsDirective directive) (hline : '\n' ∉ line)
    (h : directive? directive (line ++ '\n' :: t) = none) (ht : Gaps directive t first gaps) :
    Gaps directive (line ++ '\n' :: t) (line ++ '\n' :: first) gaps where
  onward_eq body := by
    rw [onward_of_none hd hline h, onward_cons hd, if_neg Bool.false_ne_true]
    show line ++ '\n' :: onward directive body true t = _
    rw [ht.onward_eq, List.append_assoc, List.cons_append]
  isPrefix := by
    obtain ⟨u, rfl⟩ := ht.isPrefix
    exact ⟨u, by simp⟩
  endsLine_first hgaps := by
    rcases ht.endsLine_first hgaps with rfl | ⟨u, rfl⟩
    · exact .inr ⟨line, rfl⟩
    · exact .inr ⟨line ++ '\n' :: u, by simp⟩
  isLineEnd := ht.isLineEnd
  endsLine := ht.endsLine
  isSome_iff := by simp [h]
  nil_mem_iff := by
    have htrim := trim_ne_of_directive?_eq_none hd (.inr ⟨t, rfl⟩) h
    rw [ht.nil_mem_iff, lines_append_cons, lines_of_not_mem hline, List.singleton_append, Abuts]
    simp [htrim]

/-- The last line, which is passed over. -/
lemma Gaps.of_none_last (hd : IsDirective directive) (hline : '\n' ∉ line)
    (h : directive? directive line = none) : Gaps directive line line [] where
  onward_eq body := by
    have hpass := @onward_of_none directive body hd line [] hline (by rwa [List.append_nil])
    rwa [List.append_nil, show onward directive body false [] = [] from rfl] at hpass
  isPrefix := List.prefix_rfl
  endsLine_first h := absurd rfl h
  isLineEnd := by simp
  endsLine := by simp
  isSome_iff := by simp [h]
  nil_mem_iff := by
    have htrim : trim line ≠ directive :=
      trim_ne_of_directive?_eq_none hd (t := []) (.inl rfl) (by rwa [List.append_nil])
    rw [lines_of_not_mem hline]
    simp [Abuts, htrim, Meets]

/-- The lines around a directive between blanks: the blank lines before it, its own line, and those
behind it, of which the last one is empty if the blanks end with a line feed. -/
lemma exists_lines_around (hd : IsDirective directive) {lead b after : List Char}
    (hlead : ∀ c ∈ lead, isBlank c = true) (hb : ∀ c ∈ b, isBlank c = true)
    (hafter : IsLineEnd after) :
    ∃ bs line bs', (∀ line ∈ bs, line.all isBlank = true) ∧ trim line = directive ∧
      (∀ line ∈ bs', line.all isBlank = true) ∧
      (b.getLast? = some '\n' ↔ bs'.getLast? = some []) ∧
      lines (lead ++ directive ++ b ++ after) = bs ++ line :: (bs' ++ (lines after).tail) := by
  obtain ⟨bs, l, hl, hlblank, hbs, hbefore⟩ := exists_lines_before hlead
  obtain ⟨b₁, bs', hb₁, hb₁blank, hbs', hlast, hbehind⟩ := exists_lines_behind hb hafter
  refine ⟨bs, l ++ directive ++ b₁, bs', hbs, trim_append hlblank hb₁blank hd.first hd.last, hbs',
    hlast, ?_⟩
  rw [List.append_assoc, List.append_assoc, hbefore, ← hbehind (l ++ directive)
    (by simp [hl, hd.oneLine])]
  simp

/-- The lines around a directive: what is replaced by the body stands together with the next one if
the blanks behind it end with an empty line and the next line has the directive, too. -/
lemma abuts_iff (hd : IsDirective directive) {lead b after : List Char}
    (hlead : ∀ c ∈ lead, isBlank c = true) (hb : ∀ c ∈ b, isBlank c = true)
    (hafter : after = [] ∨ ∃ t, after = '\n' :: t ∧ toLineEnd? t = none) :
    Abuts directive (lines (lead ++ directive ++ b ++ after)) ↔
      (b.getLast? = some '\n' ∧ (directive? directive after).isSome) ∨
        Abuts directive (lines after) := by
  have hend : IsLineEnd after := hafter.imp_right fun ⟨t, ht, _⟩ => ⟨t, ht⟩
  obtain ⟨bs, line, bs', hbs, htrim, hbs', hlast, hlines⟩ := exists_lines_around hd hlead hb hend
  rw [hlines, abuts_append_of_blank hbs hd, Abuts, abuts_append_of_blank hbs' hd, hlast]
  simp only [htrim, true_and]
  rcases hafter with rfl | ⟨t, rfl, ht⟩
  · have hempty : directive? directive [] = none := by
      have hne := hd.ne_nil
      cases directive with
      | nil => exact absurd rfl hne
      | cons c d => simp [directive?, trimLeft]
    have hnil : lines [] = [[]] := rfl
    have hnot : ¬Abuts directive [[]] := by simp [Abuts, Meets]
    have hnot' : ¬Abuts directive [] := id
    have hmeets : ¬Meets directive bs' := not_meets_of_blank hbs'
    simp [hnil, hmeets, hempty, hnot, hnot']
  · obtain ⟨line, t', rfl, hline, ht'⟩ := exists_isInked ht
    obtain ⟨more, hmore⟩ : ∃ more, lines (line ++ t') = line :: more := by
      rcases ht' with rfl | ⟨t', rfl⟩
      · exact ⟨[], by rw [List.append_nil, lines_of_not_mem hline.1]⟩
      · exact ⟨lines t', by rw [lines_append_cons, lines_of_not_mem hline.1]; rfl⟩
    have hink : line.all isBlank = false := by simpa [List.all_eq_false] using hline.2
    have hfeed : lines ('\n' :: (line ++ t')) = [[]] ++ lines (line ++ t') := by
      rw [lines, if_pos rfl]
      rfl
    have hempty : ∀ line ∈ [([] : List Char)], line.all isBlank = true := by simp
    rw [directive?_isSome_iff hd hline ht', hfeed, abuts_append_of_blank hempty hd]
    simp only [List.singleton_append, List.tail_cons]
    rw [hmore, meets_append_of_blank hbs' hink]

/-- The text `after` behind a directive, in which each directive is replaced, goes on with a gap,
and behind each further directive with one of the `gaps`. A directive may follow at once if the one
before it ends with its line. -/
structure GapsBehind (directive after : List Char) (ended : Bool) (gap : List Char)
    (gaps : List (List Char)) : Prop where
  /-- The text with the directive replaced. -/
  onward_eq : ∀ body, onward directive body ended after = gap ++ gaps.flatMap (body ++ ·)
  /-- The directive before the text is at the end of a line. -/
  isLineEnd_gap : IsLineEnd gap
  /-- If there is a directive in the text, the first one is at the start of a line. -/
  endsLine_gap : gaps ≠ [] → EndsLine gap
  /-- Each directive is at the end of a line. -/
  isLineEnd : ∀ g ∈ gaps, IsLineEnd g
  /-- The next directive is at the start of a line. -/
  endsLine : ∀ g ∈ gaps.dropLast, EndsLine g
  /-- There is nothing between directives if what they are replaced by stands together. -/
  nil_mem_iff : gaps ≠ [] ∧ ([] = gap ∨ [] ∈ gaps.dropLast) ↔
    (ended = true ∧ (directive? directive after).isSome) ∨ Abuts directive (lines after)

/-- Behind a directive that ends with its line, the pieces are those of the text. -/
lemma Gaps.behind_ended {after : List Char} (hg : Gaps directive after first gaps)
    (hafter : IsLineEnd after) : GapsBehind directive after true first gaps where
  onward_eq := hg.onward_eq
  isLineEnd_gap := by
    obtain ⟨u, hu⟩ := hg.isPrefix
    rcases hafter with rfl | ⟨t, rfl⟩
    · exact .inl (List.append_eq_nil_iff.mp hu).1
    · cases first with
      | nil => exact .inl rfl
      | cons c first => exact .inr ⟨first, by rw [(List.cons.inj hu).1]⟩
  endsLine_gap := hg.endsLine_first
  isLineEnd := hg.isLineEnd
  endsLine := hg.endsLine
  nil_mem_iff := by
    have hne : [] ∈ gaps.dropLast → gaps ≠ [] := ne_nil_of_mem_dropLast
    rw [hg.isSome_iff, ← hg.nil_mem_iff]
    tauto

/-- Behind a directive that is followed by a line feed, the gap starts with this. -/
lemma Gaps.behind_lineFeed (hd : IsDirective directive) (hg : Gaps directive t first gaps) :
    GapsBehind directive ('\n' :: t) false ('\n' :: first) gaps where
  onward_eq body := by
    rw [onward_cons hd, if_neg Bool.false_ne_true]
    show '\n' :: onward directive body true t = _
    rw [hg.onward_eq]
    rfl
  isLineEnd_gap := .inr ⟨first, rfl⟩
  endsLine_gap hne := by
    rcases hg.endsLine_first hne with rfl | ⟨u, rfl⟩
    · exact .inr ⟨[], rfl⟩
    · exact .inr ⟨'\n' :: u, rfl⟩
  isLineEnd := hg.isLineEnd
  endsLine := hg.endsLine
  nil_mem_iff := by
    have hfeed : lines ('\n' :: t) = [[]] ++ lines t := by
      rw [lines, if_pos rfl]
      rfl
    have hne : [] ∈ gaps.dropLast → gaps ≠ [] := ne_nil_of_mem_dropLast
    have hempty : ∀ line ∈ [([] : List Char)], line.all isBlank = true := by simp
    rw [hfeed, abuts_append_of_blank hempty hd, ← hg.nil_mem_iff]
    simp only [Bool.false_eq_true, false_and, false_or, reduceCtorEq]
    tauto

/-- Behind a directive at the end of the text there is nothing. -/
lemma gapsBehind_nil : GapsBehind directive [] false [] [] where
  onward_eq _ := rfl
  isLineEnd_gap := .inl rfl
  endsLine_gap := by simp
  isLineEnd := by simp
  endsLine := by simp
  nil_mem_iff := by simp [lines, Abuts, Meets]

/-- A directive that is replaced. -/
lemma GapsBehind.toGaps (hd : IsDirective directive) {b after gap : List Char}
    (h : directive? directive s = some (b, after))
    (hg : GapsBehind directive after (b.getLast? == some '\n') gap gaps) :
    Gaps directive s [] (gap :: gaps) where
  onward_eq body := by
    rw [onward_of_some hd h, hg.onward_eq, List.nil_append, List.flatMap_cons, List.append_assoc]
  isPrefix := List.nil_prefix
  endsLine_first _ := .inl rfl
  isLineEnd := List.forall_mem_cons.mpr ⟨hg.isLineEnd_gap, hg.isLineEnd⟩
  endsLine g hmem := by
    rcases mem_dropLast_cons.mp hmem with ⟨hne, rfl | hmem⟩
    · exact hg.endsLine_gap hne
    · exact hg.endsLine g hmem
  isSome_iff := by simp [h]
  nil_mem_iff := by
    obtain ⟨lead, hs, hlead, hb, -⟩ := directive?_eq_some h
    have habuts := abuts_iff hd hlead hb (directive?_halts h)
    rw [← hs] at habuts
    rw [mem_dropLast_cons, hg.nil_mem_iff, habuts, beq_iff_eq]

/-- Where a directive is found, the text has pieces if shorter ones have. -/
lemma Gaps.of_some (hd : IsDirective directive) {b after : List Char}
    (h : directive? directive s = some (b, after))
    (hrest : ∀ u, u.length < s.length → ∃ first gaps, Gaps directive u first gaps) :
    ∃ gaps, Gaps directive s [] gaps := by
  have hshorter := length_lt_of_directive?_eq_some hd h
  have hafter := directive?_halts h
  obtain ⟨gap, gaps, hg⟩ :
      ∃ gap gaps, GapsBehind directive after (b.getLast? == some '\n') gap gaps := by
    cases b.getLast? == some '\n' with
    | true =>
      obtain ⟨gap, gaps, hg⟩ := hrest after hshorter
      exact ⟨gap, gaps, hg.behind_ended (hafter.imp_right fun ⟨t, ht, _⟩ => ⟨t, ht⟩)⟩
    | false =>
      rcases hafter with rfl | ⟨t, rfl, -⟩
      · exact ⟨[], [], gapsBehind_nil⟩
      · rw [List.length_cons] at hshorter
        obtain ⟨first, gaps, hg⟩ := hrest t (by omega)
        exact ⟨_, gaps, hg.behind_lineFeed hd⟩
  exact ⟨gap :: gaps, hg.toGaps hd h⟩

/-- Replacing a directive leaves the pieces between.

**Proof sketch.** Strong induction on the length of the text. If a directive is found at its start,
the text goes on behind the blanks that belong to the directive (`Gaps.of_some`). Otherwise the
first line is passed over (`Gaps.of_none`). -/
lemma exists_gaps (hd : IsDirective directive) (s : List Char) :
    ∃ first gaps, Gaps directive s first gaps := by
  obtain ⟨n, hn⟩ : ∃ n, s.length = n := ⟨_, rfl⟩
  induction n using Nat.strong_induction_on generalizing s with
  | _ n ih =>
  cases hfound : directive? directive s with
  | some found =>
    obtain ⟨b, after⟩ := found
    exact ⟨[], Gaps.of_some hd hfound fun u hu => ih u.length (hn ▸ hu) u rfl⟩
  | none =>
    obtain ⟨line, t, rfl, hline, ht⟩ := exists_isLineEnd s
    rcases ht with rfl | ⟨t, rfl⟩
    · rw [List.append_nil] at hfound ⊢
      exact ⟨line, [], .of_none_last hd hline hfound⟩
    · obtain ⟨first, gaps, hg⟩ := ih t.length (by simp at hn; omega) t rfl
      exact ⟨_, gaps, .of_none hd hline hfound hg⟩

end Pieces

/-! ## The lines of the pieces -/

section Body

variable {directive body s first : List Char} {gaps : List (List Char)}

/-- The body does not fuse with what is behind it if it does not fuse with itself, or if there is
always something between. -/
lemma not_fuses_gaps {gap : List Char} (hends : ∀ g ∈ gap :: gaps, IsLineEnd g)
    (h : ¬([] ∈ (gap :: gaps).dropLast ∧ Fuses body body)) :
    ¬Fuses body (gap ++ gaps.flatMap (body ++ ·)) := by
  induction gaps generalizing gap with
  | nil =>
    rw [List.flatMap_nil, List.append_nil]
    exact not_fuses_of_isLineEnd body (hends gap List.mem_cons_self)
  | cons next gaps ih =>
    obtain ⟨hgap, hgaps⟩ := List.forall_mem_cons.mp hends
    rcases hgap with rfl | ⟨u, rfl⟩
    · have hself : ¬Fuses body body := fun hfuses => h ⟨by simp, hfuses⟩
      rw [List.nil_append, List.flatMap_cons, List.append_assoc]
      exact not_fuses_append hself (ih hgaps fun hnil => hself hnil.2)
    · exact not_fuses_of_isLineEnd body (.inr ⟨_, rfl⟩)

/-- The lines of the pieces, if the body fuses with nothing behind it. -/
lemma inkedLines_gaps (hends : ∀ g ∈ gaps, IsLineEnd g)
    (hstarts : ∀ g ∈ gaps.dropLast, EndsLine g)
    (h : ¬([] ∈ gaps.dropLast ∧ Fuses body body)) :
    inkedLines (gaps.flatMap (body ++ ·)) =
      gaps.flatMap fun g => inkedLines body ++ inkedLines g := by
  induction gaps with
  | nil => rfl
  | cons gap gaps ih =>
    obtain ⟨hgap, hgaps⟩ := List.forall_mem_cons.mp hends
    have hbehind : ¬Fuses gap (gaps.flatMap (body ++ ·)) := by
      cases gaps with
      | nil => exact not_fuses_of_isLineEnd gap (.inl rfl)
      | cons next gaps => exact not_fuses_of_endsLine (hstarts gap (by simp)) _
    have hmem : ∀ g ∈ gaps.dropLast, g ∈ (gap :: gaps).dropLast :=
      fun g hg => mem_dropLast_cons.mpr ⟨ne_nil_of_mem_dropLast hg, .inr hg⟩
    have hrest := ih hgaps (fun g hg => hstarts g (hmem g hg)) fun hnil =>
      h ⟨hmem [] hnil.1, hnil.2⟩
    rw [List.flatMap_cons, List.flatMap_cons, List.append_assoc,
      inkedLines_append (not_fuses_gaps hends h), inkedLines_append hbehind, hrest,
      List.append_assoc]

/-- The lines of the pieces are no fewer and no shorter. -/
lemma surplus_gaps_le (body : List Char) (gaps : List (List Char)) :
    (gaps.map fun g => surplus body + surplus g).sum ≤ surplus (gaps.flatMap (body ++ ·)) := by
  induction gaps with
  | nil => exact Nat.zero_le _
  | cons gap gaps ih =>
    have hbody := surplus_append_le body (gap ++ gaps.flatMap (body ++ ·))
    have hgap := surplus_append_le gap (gaps.flatMap (body ++ ·))
    rw [List.map_cons, List.sum_cons, List.flatMap_cons, List.append_assoc]
    omega

/-- If a body that fuses with itself stands together, then the lines are fewer or longer. -/
lemma surplus_gaps_lt (hnil : [] ∈ gaps.dropLast) (h : Fuses body body) :
    (gaps.map fun g => surplus body + surplus g).sum < surplus (gaps.flatMap (body ++ ·)) := by
  induction gaps with
  | nil => cases hnil
  | cons gap gaps ih =>
    obtain ⟨hne, hnil⟩ := mem_dropLast_cons.mp hnil
    have hle := surplus_gaps_le body gaps
    rw [List.map_cons, List.sum_cons, List.flatMap_cons, List.append_assoc]
    rcases hnil with rfl | hnil
    · obtain ⟨next, gaps, rfl⟩ := List.exists_cons_of_ne_nil hne
      have hfuses : Fuses body ((next :: gaps).flatMap (body ++ ·)) := by
        rw [List.flatMap_cons, List.append_assoc]
        exact fuses_append h _
      have hlt := surplus_append_lt hfuses
      have hzero : surplus [] = 0 := rfl
      rw [List.nil_append]
      omega
    · have hlt := ih hnil
      have hbody := surplus_append_le body (gap ++ gaps.flatMap (body ++ ·))
      have hgap := surplus_append_le gap (gaps.flatMap (body ++ ·))
      omega

/-- The lines of a text and of the pieces between its directives, with the lines of the body put
between the pieces. -/
lemma inkedLines_replace_eq (hg : Gaps directive s first gaps)
    (h : ¬(Abuts directive (lines s) ∧ Fuses body body)) :
    inkedLines (replace directive body s) =
      inkedLines first ++ gaps.flatMap fun g => inkedLines body ++ inkedLines g := by
  have hfirst : ¬Fuses first (gaps.flatMap (body ++ ·)) := by
    cases gaps with
    | nil => exact not_fuses_of_isLineEnd first (.inl rfl)
    | cons gap gaps => exact not_fuses_of_endsLine (hg.endsLine_first (List.cons_ne_nil _ _)) _
  rw [← hg.nil_mem_iff] at h
  rw [← inkedLines_gaps hg.isLineEnd hg.endsLine h, ← inkedLines_append hfirst, ← hg.onward_eq]
  rfl

variable (body) in
/-- The lines that lines stand for, without the blank ones. -/
lemma inked_flatMap_linesWith (hd : IsDirective directive) (ls : List (List Char)) :
    inked (ls.flatMap (linesWith directive body)) =
      (inked ls).flatMap fun line => if trim line = directive then inkedLines body else [line] := by
  induction ls with
  | nil => rfl
  | cons line ls ih =>
    rw [List.flatMap_cons, inked_append, ih, inked_cons]
    by_cases hblank : line.all isBlank = true
    · have htrim := trim_ne_of_blank hd (List.all_eq_true.mp hblank)
      rw [if_pos hblank, linesWith, if_neg htrim, inked_cons, if_pos hblank]
      rfl
    · rw [if_neg hblank, List.flatMap_cons, linesWith]
      split_ifs with htrim
      · rfl
      · rw [inked_cons, if_neg hblank]
        rfl

/-- The lines of the pieces, with the lines of the body between them, are those that the lines of
the text stand for. -/
lemma inkedLines_pieces (hd : IsDirective directive) (hg : Gaps directive s first gaps) :
    (inkedLines first ++ gaps.flatMap fun g => inkedLines body ++ inkedLines g) =
      (inkedLines s).flatMap fun line =>
        if trim line = directive then inkedLines body else [line] := by
  -- a body that ends a line never stands together with itself on one line
  have hends : EndsLine (body ++ ['\n']) := .inr ⟨body, rfl⟩
  have hbody : inkedLines (body ++ ['\n']) = inkedLines body := by
    rw [inkedLines, lines_append_cons, inked_append]
    exact List.append_nil _
  have hlines := (thins_replace hd hends s).inked_eq
  have hpieces : inkedLines (replace directive (body ++ ['\n']) s) = _ :=
    inkedLines_replace_eq hg fun h => not_fuses_of_endsLine hends _ h.2
  simp only [inked_flatMap_linesWith _ hd, hbody] at hlines hpieces
  exact hpieces.symm.trans hlines

/-- Replacing a directive leaves the lines that are not blank as they are, but for the lines with
the directive, unless the body stands together and fuses with itself.

**Proof sketch.** The text consists of the pieces between its directives (`exists_gaps`). Where no
two pieces fuse, all lines are lines of the pieces (`inkedLines_replace_eq`). Otherwise there are
more characters beyond the first ones of all lines than in the pieces (`surplus_gaps_lt`). -/
lemma inkedLines_replace_iff (hd : IsDirective directive) (body s : List Char) :
    (inkedLines (replace directive body s) =
        (inkedLines s).flatMap fun line =>
          if trim line = directive then inkedLines body else [line]) ↔
      ¬(Abuts directive (lines s) ∧ Fuses body body) := by
  obtain ⟨first, gaps, hg⟩ := exists_gaps hd s
  rw [← inkedLines_pieces hd hg]
  refine ⟨fun heq h => ?_, inkedLines_replace_eq hg⟩
  have hlt := surplus_gaps_lt (hg.nil_mem_iff.mpr h.1) h.2
  have hfirst := surplus_append_le first (gaps.flatMap (body ++ ·))
  have hwhole : surplus (replace directive body s) =
      surplus first + (gaps.map fun g => surplus body + surplus g).sum := by
    have hsum : ∀ l : List (List Char),
        ((l.flatMap fun g => inkedLines body ++ inkedLines g).map fun line =>
          line.length - 1).sum = (l.map fun g => surplus body + surplus g).sum := by
      intro l
      induction l with
      | nil => rfl
      | cons g l ih =>
        rw [List.flatMap_cons, List.map_append, List.sum_append, ih, List.map_append,
          List.sum_append, List.map_cons, List.sum_cons, surplus, surplus]
    rw [surplus, heq, List.map_append, List.sum_append, hsum]
    rfl
  rw [show replace directive body s = onward directive body true s from rfl, hg.onward_eq] at hwhole
  omega

end Body

end HttpAudit.Include
