import HttpAudit.Rule.Shape
import Mathlib.Data.List.TakeWhile
import Mathlib.Tactic.Tauto

set_option relaxedAutoImplicit false
set_option autoImplicit false

/-!
# Readings of a line

The shapes of rules are ambiguous: a literal may end at any separator behind which the rest of the
shape fits, and of all readings of a line the one with the longest literals is taken. Here the
readings are described without an order among them. The one that is taken is one of them, there is
one whenever there is any, and in no other one does the last literal end further to the right.

## Main definitions

* `HttpAudit.Part.IsLiteral` — a text is a literal.
* `HttpAudit.Part.Reads` — a text can be read as some parts and a tail.
* `HttpAudit.Part.isFitting` — the parts can stand one behind the other.

## Main results

* `HttpAudit.Part.reads_of_read` — what is read is a reading.
* `HttpAudit.Part.read_of_reads` — if there is a reading, one is found whose last literal does not
  end before.
* `HttpAudit.Verb.isFitting_shape` — the shapes of all verbs are fitting.
-/

namespace HttpAudit

namespace Part

/-! ## Literals -/

/-- Behind the characters `inner`, none of which is a line feed, and which are `least` or more, the
text `s` has a separator, and `t` follows it. -/
def SplitsAt (least : Nat) (s inner : List Char) (d : Char) (t : List Char) : Prop :=
  s = inner ++ d :: t ∧ Literal.isSeparator d = true ∧ least ≤ inner.length ∧ '\n' ∉ inner

/-- A separator in a text is its first character or stands in the rest. -/
lemma splitsAt_cons_iff {least : Nat} {c d : Char} {s inner t : List Char} :
    SplitsAt least (c :: s) inner d t ↔
      (inner = [] ∧ c = d ∧ s = t ∧ Literal.isSeparator c = true ∧ least = 0) ∨
        ∃ inner', inner = c :: inner' ∧ c ≠ '\n' ∧ SplitsAt (least - 1) s inner' d t := by
  unfold SplitsAt
  cases inner with
  | nil =>
    simp only [List.nil_append, List.cons.injEq, List.length_nil, Nat.le_zero, List.not_mem_nil,
      not_false_eq_true, and_true, true_and, reduceCtorEq, false_and, exists_const, or_false]
    constructor
    · rintro ⟨⟨rfl, rfl⟩, hd, hleast⟩
      exact ⟨rfl, rfl, hd, hleast⟩
    · rintro ⟨rfl, rfl, hd, hleast⟩
      exact ⟨⟨rfl, rfl⟩, hd, hleast⟩
  | cons e inner =>
    simp only [List.cons_append, List.cons.injEq, List.length_cons, List.mem_cons, not_or,
      reduceCtorEq, false_and, false_or]
    constructor
    · rintro ⟨⟨rfl, hs⟩, hd, hleast, hfeed, hinner⟩
      exact ⟨inner, ⟨rfl, rfl⟩, fun h => hfeed h.symm, hs, hd, by omega, hinner⟩
    · rintro ⟨inner', ⟨rfl, rfl⟩, hfeed, hs, hd, hleast, hinner⟩
      exact ⟨⟨rfl, hs⟩, hd, by omega, fun h => hfeed h.symm, hinner⟩

section Separator

variable {α : Type} {rest : List Char → Option α} {least : Nat} {s : List Char}

/-- A separator further on is taken before one that is the first character. -/
lemma toSeparator_cons {c : Char} :
    toSeparator rest least (c :: s) =
      ((if c = '\n' then none else toSeparator rest (least - 1) s).map
          fun found => (c :: found.1, found.2)).or
        (if least = 0 ∧ Literal.isSeparator c = true then (rest s).map fun a => ([c], a)
        else none) := by
  simp only [toSeparator, beq_iff_eq, Bool.and_eq_true]
  cases (if c = '\n' then none else toSeparator rest (least - 1) s) <;> rfl

/-- No separator is found if nothing is accepted behind any. -/
lemma toSeparator_eq_none_iff :
    toSeparator rest least s = none ↔
      ∀ inner d t, SplitsAt least s inner d t → rest t = none := by
  induction s generalizing least with
  | nil => simp [toSeparator, SplitsAt]
  | cons c s ih =>
    simp only [toSeparator_cons, Option.or_eq_none_iff, Option.map_eq_none_iff, ite_eq_left_iff,
      ite_eq_right_iff, ih, splitsAt_cons_iff]
    constructor
    · rintro ⟨hlonger, hhere⟩ inner d t
      rintro (⟨rfl, rfl, rfl, hc, hleast⟩ | ⟨inner', rfl, hfeed, hsplit⟩)
      · exact hhere ⟨hleast, hc⟩
      · exact hlonger hfeed _ _ _ hsplit
    · intro h
      refine ⟨fun hfeed inner d t hsplit => ?_, fun hhere => ?_⟩
      · exact h (c :: inner) d t (.inr ⟨inner, rfl, hfeed, hsplit⟩)
      · exact h [] c s (.inl ⟨rfl, rfl, rfl, hhere.2, hhere.1⟩)

/-- The separator that is found is the last one behind which something is accepted. -/
lemma toSeparator_eq_some {text : List Char} {a : α}
    (h : toSeparator rest least s = some (text, a)) :
    ∃ inner d t, text = inner ++ [d] ∧ SplitsAt least s inner d t ∧ rest t = some a ∧
      ∀ inner' d' t', SplitsAt least s inner' d' t' → inner.length < inner'.length →
        rest t' = none := by
  induction s generalizing least text with
  | nil => simp [toSeparator] at h
  | cons c s ih =>
    rw [toSeparator_cons, Option.or_eq_some_iff] at h
    rcases h with hlonger | ⟨hlonger, hhere⟩
    · simp only [Option.map_eq_some_iff, Option.ite_none_left_eq_some, Prod.exists,
        Prod.mk.injEq] at hlonger
      obtain ⟨longer, b, ⟨hfeed, hlonger⟩, rfl, rfl⟩ := hlonger
      obtain ⟨inner, d, t, rfl, hsplit, hrest, hlast⟩ := ih hlonger
      refine
        ⟨c :: inner, d, t, rfl, splitsAt_cons_iff.mpr (.inr ⟨_, rfl, hfeed, hsplit⟩), hrest, ?_⟩
      intro inner' d' t' hsplit' hlength
      rcases splitsAt_cons_iff.mp hsplit' with ⟨rfl, -⟩ | ⟨inner', rfl, -, hsplit'⟩
      · simp at hlength
      · exact hlast _ _ _ hsplit' (by simpa using hlength)
    · simp only [Option.ite_none_right_eq_some, Option.map_eq_some_iff, Prod.mk.injEq] at hhere
      obtain ⟨⟨hleast, hc⟩, a, hrest, rfl, rfl⟩ := hhere
      refine ⟨[], c, s, rfl, splitsAt_cons_iff.mpr (.inl ⟨rfl, rfl, rfl, hc, hleast⟩), hrest, ?_⟩
      intro inner' d' t' hsplit' hlength
      rcases splitsAt_cons_iff.mp hsplit' with ⟨rfl, -⟩ | ⟨inner', rfl, hfeed, hsplit'⟩
      · simp at hlength
      · rw [if_neg hfeed, Option.map_eq_none_iff] at hlonger
        exact toSeparator_eq_none_iff.mp hlonger _ _ _ hsplit'

end Separator

/-- The text is a literal with `least` characters or more between its separators. -/
def IsLiteral (least : Nat) (text : List Char) : Prop :=
  ∃ c inner d, text = c :: (inner ++ [d]) ∧ Literal.isSeparator c = true ∧
    Literal.isSeparator d = true ∧ least ≤ inner.length ∧ '\n' ∉ inner

/-- A text starts with a literal if it starts with a separator and has another one. -/
lemma isLiteral_append_iff {least : Nat} {c : Char} {s l t : List Char} :
    (c :: s = l ++ t ∧ IsLiteral least l) ↔
      Literal.isSeparator c = true ∧
        ∃ inner d, l = c :: (inner ++ [d]) ∧ SplitsAt least s inner d t := by
  unfold IsLiteral SplitsAt
  constructor
  · rintro ⟨hs, c', inner, d, rfl, hc, hd, hleast, hinner⟩
    simp only [List.cons_append, List.append_assoc, List.nil_append, List.cons.injEq] at hs
    obtain ⟨rfl, rfl⟩ := hs
    exact ⟨hc, inner, d, rfl, rfl, hd, hleast, hinner⟩
  · rintro ⟨hc, inner, d, rfl, rfl, hd, hleast, hinner⟩
    exact ⟨by simp, c, inner, d, rfl, hc, hd, hleast, hinner⟩

/-- The literal that is read is the longest one behind which something is accepted. -/
lemma literal?_eq_some {α : Type} {rest : List Char → Option α} {least : Nat} {s l : List Char}
    {a : α} (h : literal? least rest s = some (l, a)) :
    ∃ t, s = l ++ t ∧ IsLiteral least l ∧ rest t = some a ∧
      ∀ l' t', s = l' ++ t' → IsLiteral least l' → l.length < l'.length → rest t' = none := by
  unfold literal? at h
  cases s with
  | nil => simp at h
  | cons c s =>
    simp only [Option.ite_none_right_eq_some, Option.map_eq_some_iff, Prod.exists,
      Prod.mk.injEq] at h
    obtain ⟨hc, text, b, htext, rfl, rfl⟩ := h
    obtain ⟨inner, d, t, rfl, hsplit, hrest, hlast⟩ := toSeparator_eq_some htext
    obtain ⟨hs, hl⟩ := isLiteral_append_iff.mpr ⟨hc, inner, d, rfl, hsplit⟩
    refine ⟨t, hs, hl, hrest, fun l' t' hs' hl' hlength => ?_⟩
    obtain ⟨-, inner', d', rfl, hsplit'⟩ := isLiteral_append_iff.mp ⟨hs', hl'⟩
    exact hlast _ _ _ hsplit' (by simpa using hlength)

/-- A literal is read if there is one behind which something is accepted. -/
lemma literal?_ne_none {α : Type} {rest : List Char → Option α} {least : Nat} {l t : List Char}
    (hl : IsLiteral least l) (ht : rest t ≠ none) : literal? least rest (l ++ t) ≠ none := by
  obtain ⟨c, s, hs⟩ : ∃ c s, l ++ t = c :: s := by
    obtain ⟨c, inner, d, rfl, -⟩ := hl
    exact ⟨c, _, rfl⟩
  obtain ⟨hc, inner, d, -, hsplit⟩ := isLiteral_append_iff.mp ⟨hs.symm, hl⟩
  rw [hs]
  simp only [literal?, hc, if_true, ne_eq, Option.map_eq_none_iff]
  exact fun hnone => ht (toSeparator_eq_none_iff.mp hnone _ _ _ hsplit)

/-! ## Readings -/

/-- A text can be read as the given parts and a tail, with the given literals and digits. If there
are literals, the last argument is the text behind the last one. -/
inductive Reads : List Part → List Char → List (List Char) → Option (List Char) → Prop where
  /-- The tail. -/
  | tail {s : List Char} (h : isTail s = true) : Reads [] s [] none
  /-- Blanks. -/
  | blanks {least : Nat} {parts : List Part} {b s : List Char} {texts : List (List Char)}
      {after : Option (List Char)} (hb : ∀ c ∈ b, Text.isBlank c = true) (hleast : least ≤ b.length)
      (h : Reads parts s texts after) : Reads (blanks least :: parts) (b ++ s) texts after
  /-- A word. -/
  | word {w s : List Char} {parts : List Part} {texts : List (List Char)}
      {after : Option (List Char)} (h : Reads parts s texts after) :
      Reads (word w :: parts) (w ++ s) texts after
  /-- A literal. -/
  | literal {least : Nat} {parts : List Part} {l s : List Char} {texts : List (List Char)}
      {after : Option (List Char)} (hl : IsLiteral least l) (h : Reads parts s texts after) :
      Reads (literal least :: parts) (l ++ s) (l :: texts) (some (after.getD s))
  /-- Digits. -/
  | digits {d s : List Char} {parts : List Part} {texts : List (List Char)}
      {after : Option (List Char)} (hd : ∀ c ∈ d, c.isDigit = true) (hne : d ≠ [])
      (h : Reads parts s texts after) : Reads (digits :: parts) (d ++ s) (d :: texts) after

/-- The text after a word is what the word stands before. -/
lemma word?_eq_some_iff {w s t : List Char} : word? w s = some t ↔ s = w ++ t := by
  unfold word?
  rw [Option.ite_none_right_eq_some, List.isPrefixOf_iff_prefix]
  constructor
  · rintro ⟨⟨t, rfl⟩, ht⟩
    rw [List.drop_left, Option.some.injEq] at ht
    rw [ht]
  · rintro rfl
    exact ⟨List.prefix_append w t, by rw [List.drop_left]⟩

/-- What is read is a reading. -/
lemma reads_of_read {parts : List Part} {s : List Char} {texts : List (List Char)}
    (h : read parts s = some texts) : ∃ after, Reads parts s texts after := by
  induction parts generalizing s texts with
  | nil =>
    simp only [read, Option.ite_none_right_eq_some, Option.some.injEq] at h
    obtain ⟨htail, rfl⟩ := h
    exact ⟨none, .tail htail⟩
  | cons part parts ih =>
    cases part with
    | blanks least =>
      simp only [read, Option.ite_none_right_eq_some] at h
      obtain ⟨after, hreads⟩ := ih h.2
      refine ⟨after, ?_⟩
      rw [← List.takeWhile_append_dropWhile (p := Text.isBlank) (l := s)]
      exact .blanks (fun c hc => List.mem_takeWhile_imp hc) h.1 hreads
    | word w =>
      simp only [read, Option.bind_eq_some_iff] at h
      obtain ⟨t, ht, h⟩ := h
      obtain rfl := word?_eq_some_iff.mp ht
      obtain ⟨after, hreads⟩ := ih h
      exact ⟨after, .word hreads⟩
    | literal least =>
      simp only [read, Option.map_eq_some_iff, Prod.exists] at h
      obtain ⟨l, texts, hl, rfl⟩ := h
      obtain ⟨t, rfl, hliteral, ht, -⟩ := literal?_eq_some hl
      obtain ⟨after, hreads⟩ := ih ht
      exact ⟨_, .literal hliteral hreads⟩
    | digits =>
      simp only [read, Option.ite_none_left_eq_some, Option.map_eq_some_iff] at h
      obtain ⟨hne, texts, ht, rfl⟩ := h
      obtain ⟨after, hreads⟩ := ih ht
      refine ⟨after, ?_⟩
      have hdigits := Reads.digits (d := s.takeWhile Char.isDigit)
        (fun c hc => List.mem_takeWhile_imp hc) (by simpa using hne) hreads
      rwa [List.takeWhile_append_dropWhile] at hdigits

/-! ## Fitting parts -/

/-- Whether the part is a literal. -/
def isLiteralPart : Part → Bool
  | literal _ => true
  | _ => false

/-- Whether the part is blanks. -/
def isBlanksPart : Part → Bool
  | blanks _ => true
  | _ => false

/-- Whether the last part is a literal. -/
def endsInLiteral (parts : List Part) : Bool := parts.getLast?.any isLiteralPart

/-- Whether the parts can stand one behind the other: no part that follows blanks or digits starts
with one, words have no blanks and do not look like a comment, and behind a literal there is either
no other one, or a literal is the last part. -/
def isFitting : List Part → Bool
  | [] => true
  | blanks _ :: parts => parts.head?.any (!isBlanksPart ·) && isFitting parts
  | word w :: parts =>
    !w.isEmpty && w.all (fun c => !Text.isBlank c && c != '#') && isFitting parts
  | literal _ :: parts => (!parts.any isLiteralPart || endsInLiteral parts) && isFitting parts
  | digits :: parts => parts.isEmpty

/-- Separators are no blanks and do not start a comment. -/
lemma not_isBlank_of_isSeparator {c : Char} (h : Literal.isSeparator c = true) :
    Text.isBlank c = false ∧ c ≠ '#' := by
  simp only [Literal.isSeparator, Literal.separators, List.contains_eq_mem, List.mem_cons,
    List.not_mem_nil, or_false, decide_eq_true_eq] at h
  rcases h with rfl | rfl | rfl | rfl | rfl <;> exact ⟨by decide, by decide⟩

/-- Digits are no blanks and do not start a comment. -/
lemma not_isBlank_of_isDigit {c : Char} (h : c.isDigit = true) :
    Text.isBlank c = false ∧ c ≠ '#' := by
  have hbounds : 48 ≤ c.toNat ∧ c.toNat ≤ 57 := by
    simpa [Char.isDigit, UInt32.le_iff_toNat_le] using h
  constructor
  · simp only [Text.isBlank, Bool.or_eq_false_iff, Bool.and_eq_false_iff, decide_eq_false_iff_not,
      beq_eq_false_iff_ne]
    omega
  · rintro rfl
    exact absurd hbounds (by decide)

/-- What starts with a part other than blanks starts neither with a blank nor with a comment. -/
lemma Reads.exists_cons {part : Part} {parts : List Part} {s : List Char}
    {texts : List (List Char)} {after : Option (List Char)}
    (h : Reads (part :: parts) s texts after) (hpart : isBlanksPart part = false)
    (hfit : isFitting (part :: parts) = true) :
    ∃ c t, s = c :: t ∧ Text.isBlank c = false ∧ c ≠ '#' := by
  cases h with
  | blanks hb hleast h => simp [isBlanksPart] at hpart
  | @word w s _ _ _ h =>
    simp only [isFitting, Bool.and_eq_true, List.all_eq_true, bne_iff_ne, Bool.not_eq_true'] at hfit
    cases w with
    | nil => simp at hfit
    | cons c w => exact ⟨c, w ++ s, rfl, hfit.1.2 c List.mem_cons_self⟩
  | @literal _ _ _ s _ _ hl h =>
    obtain ⟨c, inner, d, rfl, hc, -⟩ := hl
    exact ⟨c, inner ++ [d] ++ s, rfl, not_isBlank_of_isSeparator hc⟩
  | @digits d s _ _ _ hd hne h =>
    cases d with
    | nil => exact absurd rfl hne
    | cons c d => exact ⟨c, d ++ s, rfl, not_isBlank_of_isDigit (hd c List.mem_cons_self)⟩

/-- If a literal is the last part, it is so behind other parts. -/
lemma endsInLiteral_of_cons {part : Part} {parts : List Part}
    (h : endsInLiteral (part :: parts) = true) (hpart : isLiteralPart part = false) :
    endsInLiteral parts = true := by
  cases parts with
  | nil => simp [endsInLiteral, hpart] at h
  | cons next parts => exact h

/-! ## The end of the last literal -/

/-- What is behind the last literal stands at the end of the text. -/
lemma Reads.suffix {parts : List Part} {s : List Char} {texts : List (List Char)}
    {after : Option (List Char)} (h : Reads parts s texts after) : after.getD s <:+ s := by
  induction h with
  | tail h => exact List.suffix_rfl
  | @blanks _ _ b s _ after hb hleast h ih =>
    cases after with
    | none => exact List.suffix_rfl
    | some t => exact ih.trans (List.suffix_append b s)
  | @word w s _ _ after h ih =>
    cases after with
    | none => exact List.suffix_rfl
    | some t => exact ih.trans (List.suffix_append w s)
  | @literal _ _ l s _ _ hl h ih => exact ih.trans (List.suffix_append l s)
  | @digits d s _ _ after hd hne h ih =>
    cases after with
    | none => exact List.suffix_rfl
    | some t => exact ih.trans (List.suffix_append d s)

/-- Without literals there is nothing behind the last one. -/
lemma Reads.after_eq_none {parts : List Part} {s : List Char} {texts : List (List Char)}
    {after : Option (List Char)} (h : Reads parts s texts after)
    (hparts : parts.any isLiteralPart = false) : after = none := by
  induction h with
  | tail h => rfl
  | literal hl h ih => simp [isLiteralPart] at hparts
  | _ => simp_all

/-- What is behind the last literal stands behind a separator. -/
lemma Reads.exists_separator {parts : List Part} {s t : List Char} {texts : List (List Char)}
    {after : Option (List Char)} (h : Reads parts s texts after) (hafter : after = some t) :
    ∃ d, Literal.isSeparator d = true ∧ d :: t <:+ s := by
  induction h with
  | tail h => cases hafter
  | @blanks _ _ b s _ _ hb hleast h ih =>
    obtain ⟨d, hd, hsuffix⟩ := ih hafter
    exact ⟨d, hd, hsuffix.trans (List.suffix_append b s)⟩
  | @word w s _ _ _ h ih =>
    obtain ⟨d, hd, hsuffix⟩ := ih hafter
    exact ⟨d, hd, hsuffix.trans (List.suffix_append w s)⟩
  | @literal _ _ l s _ after hl h ih =>
    cases after with
    | none =>
      obtain ⟨c, inner, d, rfl, -, hd, -⟩ := hl
      obtain rfl : s = t := by simpa using hafter
      exact ⟨d, hd, c :: inner, by simp⟩
    | some u =>
      obtain ⟨d, hd, hsuffix⟩ := ih hafter
      exact ⟨d, hd, hsuffix.trans (List.suffix_append l s)⟩
  | @digits e s _ _ _ he hne h ih =>
    obtain ⟨d, hd, hsuffix⟩ := ih hafter
    exact ⟨d, hd, hsuffix.trans (List.suffix_append e s)⟩

/-- If a literal is the last part, a tail is behind it. -/
lemma Reads.exists_tail {parts : List Part} {s : List Char} {texts : List (List Char)}
    {after : Option (List Char)} (h : Reads parts s texts after)
    (hlast : endsInLiteral parts = true) : ∃ t, after = some t ∧ isTail t = true := by
  induction h with
  | tail h => simp [endsInLiteral] at hlast
  | @literal _ parts l s _ _ hl h ih =>
    cases parts with
    | nil =>
      cases h with
      | tail htail => exact ⟨s, rfl, htail⟩
    | cons part parts =>
      obtain ⟨t, rfl, htail⟩ := ih hlast
      exact ⟨t, rfl, htail⟩
  | blanks hb hleast h ih => exact ih (endsInLiteral_of_cons hlast rfl)
  | word h ih => exact ih (endsInLiteral_of_cons hlast rfl)
  | digits hd hne h ih => exact ih (endsInLiteral_of_cons hlast rfl)

/-- If a literal is the last part, it may as well end further to the right, at a separator before a
tail. -/
lemma Reads.extend {parts : List Part} {s x t : List Char} {d : Char} {texts : List (List Char)}
    {after : Option (List Char)} (h : Reads parts s texts after)
    (hlast : endsInLiteral parts = true) (hfeed : '\n' ∉ s) (hafter : after = some (x ++ d :: t))
    (hd : Literal.isSeparator d = true) (htail : isTail t = true) :
    ∃ texts', Reads parts s texts' (some t) := by
  induction h with
  | tail h => simp [endsInLiteral] at hlast
  | @blanks _ parts b s _ _ hb hleast h ih =>
    obtain ⟨texts', h'⟩ := ih (endsInLiteral_of_cons hlast rfl)
      (fun hs => hfeed (List.mem_append_right b hs)) hafter
    exact ⟨texts', .blanks hb hleast h'⟩
  | @word w s parts _ _ h ih =>
    obtain ⟨texts', h'⟩ := ih (endsInLiteral_of_cons hlast rfl)
      (fun hs => hfeed (List.mem_append_right w hs)) hafter
    exact ⟨texts', .word h'⟩
  | @literal least parts l s _ _ hl h ih =>
    cases parts with
    | nil =>
      -- the literal that ends further to the right takes in what was behind the old one
      cases h
      obtain rfl : s = x ++ d :: t := by simpa using hafter
      obtain ⟨c, inner, e, rfl, hc, he, hleast, hinner⟩ := hl
      have hlonger : IsLiteral least (c :: ((inner ++ e :: x) ++ [d])) := by
        refine ⟨c, inner ++ e :: x, d, rfl, hc, hd, ?_, fun hs => hfeed ?_⟩
        · rw [List.length_append]
          omega
        · simp only [List.mem_append, List.mem_cons] at hs ⊢
          tauto
      have htext : c :: (inner ++ [e]) ++ (x ++ d :: t) =
          c :: ((inner ++ e :: x) ++ [d]) ++ t := by simp
      rw [htext]
      exact ⟨_, .literal hlonger (.tail htail)⟩
    | cons part parts =>
      obtain ⟨u, rfl, -⟩ := h.exists_tail hlast
      obtain ⟨texts', h'⟩ := ih hlast (fun hs => hfeed (List.mem_append_right l hs)) hafter
      exact ⟨l :: texts', .literal hl h'⟩
  | @digits e s parts _ _ he hne h ih =>
    obtain ⟨texts', h'⟩ := ih (endsInLiteral_of_cons hlast rfl)
      (fun hs => hfeed (List.mem_append_right e hs)) hafter
    exact ⟨e :: texts', .digits he hne h'⟩

/-! ## The reading that is taken -/

/-- Blanks before something that starts with none are all the blanks there are. -/
lemma takeWhile_isBlank {b s : List Char} {c : Char} (hb : ∀ c ∈ b, Text.isBlank c = true)
    (hc : Text.isBlank c = false) :
    (b ++ c :: s).takeWhile Text.isBlank = b ∧ Text.trimLeft (b ++ c :: s) = c :: s := by
  unfold Text.trimLeft
  rw [List.takeWhile_append_of_pos hb, List.dropWhile_append_of_pos hb]
  simp [hc]

/-- A digit does not stand before the tail of a line. -/
lemma isDigit_of_isTail {c : Char} {s : List Char} (h : isTail (c :: s) = true) :
    c.isDigit = false := by
  by_contra hc
  obtain ⟨hblank, hhash⟩ := not_isBlank_of_isDigit (by simpa using hc)
  simp only [isTail, Text.trimLeft, List.dropWhile_cons, hblank] at h
  split at h <;> simp_all

/-- Digits before a tail are all the digits there are. -/
lemma takeWhile_isDigit {d s : List Char} (hd : ∀ c ∈ d, c.isDigit = true) (hs : isTail s = true) :
    (d ++ s).takeWhile Char.isDigit = d ∧ (d ++ s).dropWhile Char.isDigit = s := by
  rw [List.takeWhile_append_of_pos hd, List.dropWhile_append_of_pos hd]
  cases s with
  | nil => simp
  | cons c s => simp [isDigit_of_isTail hs]

/-- Behind a literal that may be longer than the one of a reading there is a reading, too, whose
last literal does not end before. -/
lemma Reads.of_longer {parts : List Part} {l l' s s' : List Char} {texts texts' : List (List Char)}
    {after after' : Option (List Char)}
    (hparts : parts.any isLiteralPart = false ∨ endsInLiteral parts = true)
    (hfeed : '\n' ∉ s') (hs : l ++ s = l' ++ s') (hlength : l.length ≤ l'.length)
    (h : Reads parts s texts after) (h' : Reads parts s' texts' after') :
    ∃ texts₀ after₀, Reads parts s' texts₀ after₀ ∧
      (after₀.getD s').length ≤ (after.getD s).length := by
  rcases hparts with hnone | hlast
  · obtain rfl := h.after_eq_none hnone
    obtain rfl := h'.after_eq_none hnone
    have hsum := congrArg List.length hs
    simp only [List.length_append] at hsum
    exact ⟨texts', none, h', by simp only [Option.getD_none]; omega⟩
  · obtain ⟨t, rfl, htail⟩ := h.exists_tail hlast
    obtain ⟨t', rfl, -⟩ := h'.exists_tail hlast
    obtain ⟨d, hd, hsuffix⟩ := h.exists_separator rfl
    by_cases hle : t'.length ≤ t.length
    · exact ⟨texts', some t', h', hle⟩
    -- else the separator before `t` stands in `t'`, and the last literal can be extended to it
    have hinside : d :: t <:+ t' := by
      refine List.suffix_of_suffix_length_le (hsuffix.trans (List.suffix_append l s)) ?_ ?_
      · rw [hs]
        exact h'.suffix.trans (List.suffix_append l' s')
      · rw [List.length_cons]
        omega
    obtain ⟨x, hx⟩ := hinside
    obtain ⟨texts₀, h₀⟩ := h'.extend hlast hfeed (congrArg some hx.symm) hd htail
    exact ⟨texts₀, some t, h₀, le_rfl⟩

/-- If there is a reading, one is found whose last literal does not end before.

**Proof sketch.** Induction on the parts. A literal that is read is at least as long as the one of
the given reading. If it is longer, then behind it there is still a reading whose last literal does
not end before the given one (`Reads.of_longer`), so what is read behind it does not end before
either. -/
lemma read_of_reads {parts : List Part} {s : List Char} {texts : List (List Char)}
    {after : Option (List Char)} (hfit : isFitting parts = true) (hfeed : '\n' ∉ s)
    (h : Reads parts s texts after) :
    ∃ texts' after', read parts s = some texts' ∧ Reads parts s texts' after' ∧
      ∀ t, after = some t → ∃ t', after' = some t' ∧ t'.length ≤ t.length := by
  induction parts generalizing s texts after with
  | nil =>
    cases h with
    | tail htail => exact ⟨[], none, by simp [read, htail], .tail htail, by simp⟩
  | cons part parts ih =>
    cases h with
    | @blanks least _ b s _ _ hb hleast h =>
      simp only [isFitting, Bool.and_eq_true, Option.any_eq_true] at hfit
      obtain ⟨⟨next, hnext, hopens⟩, hfit⟩ := hfit
      obtain ⟨texts', after', hread, h', hafter⟩ :=
        ih hfit (fun hs => hfeed (List.mem_append_right b hs)) h
      refine ⟨texts', after', ?_, .blanks hb hleast h', hafter⟩
      obtain ⟨rest, rfl⟩ := List.head?_eq_some_iff.mp hnext
      obtain ⟨c, t, rfl, hc, -⟩ := h.exists_cons (by simpa using hopens) hfit
      obtain ⟨htake, hdrop⟩ := takeWhile_isBlank (s := t) hb hc
      simpa only [read, htake, hdrop, hleast, if_true] using hread
    | @word w s _ _ _ h =>
      simp only [isFitting, Bool.and_eq_true] at hfit
      obtain ⟨texts', after', hread, h', hafter⟩ :=
        ih hfit.2 (fun hs => hfeed (List.mem_append_right w hs)) h
      refine ⟨texts', after', ?_, .word h', hafter⟩
      rw [read, word?_eq_some_iff.mpr rfl]
      exact hread
    | @literal least _ l s _ after hl h =>
      simp only [isFitting, Bool.and_eq_true, Bool.or_eq_true, Bool.not_eq_true'] at hfit
      obtain ⟨hparts, hfit⟩ := hfit
      obtain ⟨texts₁, -, hread₁, -⟩ := ih hfit (fun hs => hfeed (List.mem_append_right l hs)) h
      have hfound : literal? least (read parts) (l ++ s) ≠ none :=
        literal?_ne_none hl (by simp [hread₁])
      obtain ⟨⟨l', texts'⟩, hl'⟩ := Option.ne_none_iff_exists'.mp hfound
      obtain ⟨s', hs, hliteral, hread, hlongest⟩ := literal?_eq_some hl'
      have hlength : l.length ≤ l'.length := by
        by_contra hshort
        rw [hlongest l s rfl hl (by omega)] at hread₁
        cases hread₁
      have hfeed' : '\n' ∉ s' := fun hmem => hfeed (hs ▸ List.mem_append_right l' hmem)
      obtain ⟨after', h'⟩ := reads_of_read hread
      obtain ⟨texts₀, after₀, h₀, hle₀⟩ := h.of_longer hparts hfeed' hs hlength h'
      obtain ⟨texts₂, after₂, hread₂, h₂, hafter₂⟩ := ih hfit hfeed' h₀
      refine ⟨l' :: texts₂, some (after₂.getD s'), ?_, ?_, ?_⟩
      · obtain rfl : texts' = texts₂ := Option.some.inj (hread.symm.trans hread₂)
        simp only [read, hl', Option.map_some]
      · rw [hs]
        exact .literal hliteral h₂
      · rintro t ht
        refine ⟨_, rfl, ?_⟩
        rw [← Option.some.inj ht]
        refine le_trans ?_ hle₀
        cases after₀ with
        | none => exact h₂.suffix.length_le
        | some t₀ =>
          obtain ⟨t₂, rfl, hle⟩ := hafter₂ t₀ rfl
          exact hle
    | @digits d s _ _ _ hd hne h =>
      obtain rfl : parts = [] := by simpa [isFitting] using hfit
      cases h with
      | tail htail =>
        obtain ⟨htake, hdrop⟩ := takeWhile_isDigit hd htail
        refine ⟨[d], none, ?_, .digits hd hne (.tail htail), by simp⟩
        simp [read, htake, hdrop, hne, htail]

end Part

/-- The shapes of all verbs are fitting. -/
lemma Verb.isFitting_shape (v : Verb) : Part.isFitting v.shape = true := by
  cases v <;> decide

end HttpAudit
