import HttpAudit.Proofs.Rule.Literal
import HttpAudit.Proofs.Rule.Reading
import Mathlib.Data.List.Basic

set_option relaxedAutoImplicit false
set_option autoImplicit false

/-!
# Comments behind a rule

A comment may stand behind a rule. It is part of the line, though, when the literals of the line
are looked for, and since these reach as far as the line allows, a comment with a separator can be
drawn into a literal. Here it is shown when this happens, and that nothing else can change the
meaning of the rule.

## Main definitions

* `HttpAudit.Rule.DrawsIn` — a comment behind a line is drawn into a literal.

## Main results

* `HttpAudit.Part.read_append` — a comment that is not drawn into a literal changes no reading.
* `HttpAudit.Rule.parse_append_iff` — a comment keeps the meaning of a rule if and only if it is not
  drawn into a literal.
* `HttpAudit.Rule.parse_append_of_not_mem` — a comment without separators keeps it.
-/

namespace HttpAudit

namespace Part

/-- A comment behind a tail makes a tail, and one behind anything else does not. -/
lemma isTail_append {s c : List Char} (hc : '\n' ∉ c) :
    isTail (s ++ ' ' :: '#' :: c) = isTail s := by
  unfold isTail Text.trimLeft
  rw [List.dropWhile_append]
  cases h : s.dropWhile Text.isBlank with
  | nil =>
    have hblank : Text.isBlank ' ' = true := by decide
    have hhash : Text.isBlank '#' = false := by decide
    simp [hblank, hhash, hc]
  | cons d t =>
    by_cases hd : d = '#'
    · subst hd
      simp [hc]
    · simp [hd]

/-- A word without blanks is not found at the end of the text and the start of a comment. -/
lemma word?_append {w s c : List Char} (hw : ∀ e ∈ w, Text.isBlank e = false) :
    word? w (s ++ ' ' :: c) = (word? w s).map (· ++ ' ' :: c) := by
  cases h : word? w s with
  | some t =>
    obtain rfl := word?_eq_some_iff.mp h
    exact word?_eq_some_iff.mpr (List.append_assoc w t _)
  | none =>
    rw [Option.map_none]
    by_contra hne
    obtain ⟨t, ht⟩ := Option.ne_none_iff_exists'.mp hne
    rcases List.append_eq_append_iff.mp (word?_eq_some_iff.mp ht) with ⟨u, rfl, hu⟩ | ⟨u, rfl, hu⟩
    · cases u with
      | nil => simp [word?_eq_some_iff.mpr (List.append_nil s).symm] at h
      | cons e u =>
        obtain ⟨rfl, -⟩ := List.cons.inj hu
        exact absurd (hw ' ' (by simp)) (by decide)
    · rw [word?_eq_some_iff.mpr rfl] at h
      cases h

section Separator

variable {α : Type} {rest : List Char → Option α} {least : Nat} {s e : List Char}

/-- More text behind changes nothing about where a literal ends, if nothing is accepted within it,
and what is accepted elsewhere stays the same. -/
lemma toSeparator_append
    (hrest : ∀ inner d t, SplitsAt least s inner d t → rest (t ++ e) = rest t)
    (hnone : ∀ inner d t, SplitsAt least (s ++ e) inner d t → t.length < e.length → rest t = none) :
    toSeparator rest least (s ++ e) = toSeparator rest least s := by
  induction s generalizing least with
  | nil =>
    refine toSeparator_eq_none_iff.mpr fun inner d t hsplit => hnone _ _ _ hsplit ?_
    rw [show e = inner ++ d :: t from hsplit.1, List.length_append, List.length_cons]
    omega
  | cons c s ih =>
    have hlonger : c ≠ '\n' → toSeparator rest (least - 1) (s ++ e) =
        toSeparator rest (least - 1) s := by
      intro hc
      refine ih (fun inner d t hsplit => ?_) (fun inner d t hsplit => ?_)
      · exact hrest _ d t (splitsAt_cons_iff.mpr (.inr ⟨inner, rfl, hc, hsplit⟩))
      · exact hnone _ d t (splitsAt_cons_iff.mpr (.inr ⟨inner, rfl, hc, hsplit⟩))
    have hhere : least = 0 ∧ Literal.isSeparator c = true → rest (s ++ e) = rest s := by
      rintro ⟨rfl, hc⟩
      exact hrest [] c s (splitsAt_cons_iff.mpr (.inl ⟨rfl, rfl, rfl, hc, rfl⟩))
    rw [List.cons_append, toSeparator_cons, toSeparator_cons]
    congr 1
    · split_ifs with hc
      · rfl
      · rw [hlonger hc]
    · split_ifs with hc
      · rw [hhere hc]
      · rfl

end Separator

/-- No part that starts with anything but blanks is read from nothing, or from a comment. -/
lemma read_eq_none {part : Part} {parts : List Part} {s : List Char}
    (hpart : isBlanksPart part = false) (hfit : isFitting (part :: parts) = true)
    (hs : s = [] ∨ ∃ c, s = '#' :: c) : read (part :: parts) s = none := by
  by_contra hne
  obtain ⟨texts, hread⟩ := Option.ne_none_iff_exists'.mp hne
  obtain ⟨after, hreads⟩ := reads_of_read hread
  obtain ⟨c, t, rfl, -, hc⟩ := hreads.exists_cons hpart hfit
  rcases hs with hs | ⟨c', hs⟩
  · cases hs
  · exact hc (List.cons.inj hs).1

/-- A separator behind which there is less than a comment and the two characters before it stands
within the comment. -/
lemma length_lt_of_suffix {s c t : List Char} {d : Char} (hd : Literal.isSeparator d = true)
    (hsuffix : d :: t <:+ s ++ ' ' :: '#' :: c) (hlength : t.length < c.length + 2) :
    t.length < c.length := by
  have hinside : d :: t <:+ ' ' :: '#' :: c := by
    refine List.suffix_of_suffix_length_le hsuffix (List.suffix_append s _) ?_
    simp only [List.length_cons]
    omega
  rcases List.suffix_cons_iff.mp hinside with h | h
  · obtain ⟨rfl, -⟩ := List.cons.inj h
    exact absurd hd (by decide)
  rcases List.suffix_cons_iff.mp h with h | h
  · obtain ⟨rfl, -⟩ := List.cons.inj h
    exact absurd hd (by decide)
  · have hle := h.length_le
    rw [List.length_cons] at hle
    omega

/-- What a prefix consists of up to a character that fails a test does not depend on what follows
this character. -/
lemma takeWhile_append_cons {p : Char → Bool} {s t : List Char} {c : Char} (hc : p c = false) :
    (s ++ c :: t).takeWhile p = s.takeWhile p ∧
      (s ++ c :: t).dropWhile p = s.dropWhile p ++ c :: t := by
  induction s with
  | nil => simp [hc]
  | cons d s ih => by_cases hd : p d = true <;> simp [hd, ih]

/-- What a prefix consists of does not depend on what is added, if it ends before. -/
lemma takeWhile_append_of_ne_nil {p : Char → Bool} {s t : List Char} (h : s.dropWhile p ≠ []) :
    (s ++ t).takeWhile p = s.takeWhile p ∧ (s ++ t).dropWhile p = s.dropWhile p ++ t := by
  induction s with
  | nil => exact absurd rfl h
  | cons d s ih =>
    by_cases hd : p d = true
    · rw [List.dropWhile_cons_of_pos hd] at h
      simp [hd, ih h]
    · simp [hd]

/-- A comment changes nothing about what is read, if no literal can end in it.

**Proof sketch.** Induction on the parts. Blanks, words and digits end before the comment, since
neither its sharp sign nor the blank before that fits into what follows. A literal that ends before
the comment does so with the comment, too, by induction; and none that ends in it is followed by
the rest of the parts. -/
lemma read_append {parts : List Part} {s c : List Char} (hfit : isFitting parts = true)
    (hc : '\n' ∉ c)
    (hkept : ∀ texts t, Reads parts (s ++ ' ' :: '#' :: c) texts (some t) →
      c.length ≤ t.length) :
    read parts (s ++ ' ' :: '#' :: c) = read parts s := by
  induction parts generalizing s with
  | nil => simp only [read, isTail_append hc]
  | cons part parts ih =>
    cases part with
    | blanks least =>
      simp only [isFitting, Bool.and_eq_true, Option.any_eq_true, Bool.not_eq_true'] at hfit
      obtain ⟨⟨next, hnext, hopens⟩, hfit⟩ := hfit
      obtain ⟨rest, rfl⟩ := List.head?_eq_some_iff.mp hnext
      rw [read, read]
      by_cases hs : Text.trimLeft s = []
      · have hblank : ∀ e ∈ s, Text.isBlank e = true := List.dropWhile_eq_nil_iff.mp hs
        have htail : Text.trimLeft (s ++ ' ' :: '#' :: c) = '#' :: c := by
          rw [Text.trimLeft, List.dropWhile_append_of_pos hblank]
          rfl
        rw [htail, hs, read_eq_none hopens hfit (.inr ⟨c, rfl⟩),
          read_eq_none hopens hfit (.inl rfl)]
        simp
      · obtain ⟨htake, hdrop⟩ := takeWhile_append_of_ne_nil (t := ' ' :: '#' :: c) hs
        rw [htake, Text.trimLeft, hdrop, ← Text.trimLeft]
        split_ifs with hleast
        · refine ih hfit fun texts u hreads => hkept texts u ?_
          have hblanks := Reads.blanks (fun e he => List.mem_takeWhile_imp he) hleast hreads
          rwa [Text.trimLeft, ← List.append_assoc, List.takeWhile_append_dropWhile] at hblanks
        · rfl
    | word w =>
      simp only [isFitting, Bool.and_eq_true, List.all_eq_true, Bool.not_eq_true'] at hfit
      rw [read, read, word?_append fun e he => (hfit.1.2 e he).1]
      cases hw : word? w s with
      | none => rfl
      | some t =>
        obtain rfl := word?_eq_some_iff.mp hw
        refine ih hfit.2 fun texts u hreads => hkept texts u ?_
        rw [List.append_assoc]
        exact .word hreads
    | literal least =>
      simp only [isFitting, Bool.and_eq_true] at hfit
      have hread : literal? least (read parts) (s ++ ' ' :: '#' :: c) =
          literal? least (read parts) s := by
        cases s with
        | nil => rfl
        | cons d s =>
          rw [List.cons_append, literal?, literal?]
          split_ifs with hd
          · rw [toSeparator_append]
            · intro inner e t hsplit
              obtain ⟨hs, hliteral⟩ := isLiteral_append_iff.mpr ⟨hd, inner, e, rfl, hsplit⟩
              refine ih hfit.2 fun texts u hreads => hkept ((d :: (inner ++ [e])) :: texts) u ?_
              rw [hs, List.append_assoc]
              exact .literal hliteral hreads
            · intro inner e t hsplit hlength
              -- what is accepted here would be the rest of a reading with a literal in the comment
              obtain ⟨hs, hliteral⟩ := isLiteral_append_iff.mpr ⟨hd, inner, e, rfl, hsplit⟩
              by_contra hne
              obtain ⟨texts, hrest⟩ := Option.ne_none_iff_exists'.mp hne
              obtain ⟨after, hreads⟩ := reads_of_read hrest
              have hle := hkept _ _ (hs ▸ Reads.literal hliteral hreads)
              have hlt := length_lt_of_suffix hsplit.2.1 ⟨inner, hsplit.1.symm⟩ hlength
              have hafter := hreads.suffix.length_le
              omega
          · rfl
      rw [read, read, hread]
    | digits =>
      obtain rfl : parts = [] := by simpa [isFitting] using hfit
      obtain ⟨htake, hdrop⟩ := takeWhile_append_cons (p := Char.isDigit) (s := s)
        (t := '#' :: c) (c := ' ') (by decide)
      simp only [read, htake, hdrop, isTail_append hc]

/-- Whether the part is a literal or digits. -/
def isText : Part → Bool
  | literal _ | digits => true
  | _ => false

/-- A reading has as many texts as there are literals and digits. -/
lemma Reads.length_texts {parts : List Part} {s : List Char} {texts : List (List Char)}
    {after : Option (List Char)} (h : Reads parts s texts after) :
    texts.length = parts.countP isText := by
  induction h with
  | tail h => rfl
  | blanks hb hleast h ih => rw [ih, List.countP_cons_of_neg (by simp [isText])]
  | word h ih => rw [ih, List.countP_cons_of_neg (by simp [isText])]
  | literal hl h ih => rw [List.length_cons, ih, List.countP_cons_of_pos rfl]
  | digits hd hne h ih => rw [List.length_cons, ih, List.countP_cons_of_pos rfl]

/-- The sharp signs of a line are those of its literals and those behind them. -/
lemma Reads.count_sharp {parts : List Part} {s : List Char} {texts : List (List Char)}
    {after : Option (List Char)} (hfit : isFitting parts = true) (h : Reads parts s texts after) :
    texts.flatten.count '#' + (after.getD s).count '#' = s.count '#' := by
  induction h with
  | tail h => simp
  | @blanks _ _ b s _ after hb hleast h ih =>
    simp only [isFitting, Bool.and_eq_true] at hfit
    have hnone : b.count '#' = 0 :=
      List.count_eq_zero.mpr fun hmem => absurd (hb '#' hmem) (by decide)
    have hsum := ih hfit.2
    cases after <;> simp only [Option.getD_none, Option.getD_some, List.count_append] at hsum ⊢ <;>
      omega
  | @word w s _ _ after h ih =>
    simp only [isFitting, Bool.and_eq_true, List.all_eq_true, bne_iff_ne] at hfit
    have hnone : w.count '#' = 0 :=
      List.count_eq_zero.mpr fun hmem => (hfit.1.2 '#' hmem).2 rfl
    have hsum := ih hfit.2
    cases after <;> simp only [Option.getD_none, Option.getD_some, List.count_append] at hsum ⊢ <;>
      omega
  | @literal _ _ l s _ _ hl h ih =>
    simp only [isFitting, Bool.and_eq_true] at hfit
    have hsum := ih hfit.2
    simp only [Option.getD_some, List.flatten_cons, List.count_append] at hsum ⊢
    omega
  | @digits d s parts _ after hd hne h ih =>
    obtain rfl : parts = [] := by simpa [isFitting] using hfit
    have hnone : d.count '#' = 0 :=
      List.count_eq_zero.mpr fun hmem => absurd (hd '#' hmem) (by decide)
    cases h
    simp [hnone]

/-- A comment stands at the end of the line with it. -/
lemma suffix_append_comment (line comment : List Char) :
    comment <:+ line ++ ' ' :: '#' :: comment := ⟨line ++ [' ', '#'], by simp⟩

/-- Literals that end within a comment have more sharp signs than those of the line alone: the one
that starts the comment is theirs, and none of the comment follows the line alone. -/
lemma Reads.sharps_lt {parts : List Part} {line comment t : List Char}
    {texts texts' : List (List Char)} {after : Option (List Char)}
    (hfit : isFitting parts = true) (h : Reads parts line texts after)
    (h' : Reads parts (line ++ ' ' :: '#' :: comment) texts' (some t))
    (hshort : t.length < comment.length) :
    texts.flatten.count '#' < texts'.flatten.count '#' := by
  have hinside : t <:+ comment :=
    List.suffix_of_suffix_length_le h'.suffix (suffix_append_comment line comment) hshort.le
  have hfewer := hinside.sublist.count_le '#'
  have hline := h.count_sharp hfit
  have hmore := h'.count_sharp hfit
  simp only [Option.getD_some, List.count_append,
    List.count_cons_of_ne (show ' ' ≠ '#' by decide), List.count_cons_self] at hmore
  omega

end Part

/-! ## Sentences -/

namespace Sentence

/-- The literals of the sentence that a line is are those of a reading. -/
lemma reads_of_ofVerb? {v : Verb} {line : List Char} {s : Sentence} (h : ofVerb? v line = some s) :
    ∃ after, Part.Reads v.shape line s.texts after := by
  obtain ⟨texts, hread, htexts⟩ := Option.bind_eq_some_iff.mp h
  obtain ⟨-, -, rfl⟩ := ofTexts?_eq_some_iff.mp htexts
  exact Part.reads_of_read hread

/-- A reading for a verb has the literals of a sentence with this verb. -/
lemma exists_ofTexts? {v : Verb} {line : List Char} {texts : List (List Char)}
    {after : Option (List Char)} (h : Part.Reads v.shape line texts after) :
    ∃ s, ofTexts? v texts = some s ∧ s.texts = texts := by
  have hlength := h.length_texts
  cases hform : v.form <;>
    simp only [Verb.shape, hform, List.countP_cons, List.countP_nil, Part.isText] at hlength
  case bare =>
    obtain rfl := List.length_eq_zero_iff.mp hlength
    exact ⟨bare v, by simp [ofTexts?, hform], rfl⟩
  case key =>
    obtain ⟨text, rfl⟩ := List.length_eq_one_iff.mp hlength
    exact ⟨key v text, by simp [ofTexts?, hform], rfl⟩
  case scope =>
    obtain ⟨name, rfl⟩ := List.length_eq_one_iff.mp hlength
    exact ⟨scope v name, by simp [ofTexts?, hform], rfl⟩
  case condition =>
    obtain ⟨name, value, rfl⟩ := List.length_eq_two.mp hlength
    exact ⟨condition v name value, by simp [ofTexts?, hform], rfl⟩
  case substitution =>
    obtain ⟨name, find, replacement, rfl⟩ := List.length_eq_three.mp hlength
    exact ⟨substitution v name find replacement, by simp [ofTexts?, hform], rfl⟩
  case percentage =>
    obtain ⟨digits, rfl⟩ := List.length_eq_one_iff.mp hlength
    exact ⟨percentage v digits, by simp [ofTexts?, hform], rfl⟩

/-- Of the verbs that read a line the first one counts. -/
lemma ofLine?_eq_some_iff {line : List Char} {s : Sentence} :
    ofLine? line = some s ↔
      ofVerb? s.verb line = some s ∧
        ∀ v, Verb.all.idxOf v < Verb.all.idxOf s.verb → ofVerb? v line = none := by
  have hbefore : ∀ {before after : List Verb} {v w : Verb}, Verb.all = before ++ v :: after →
      v ∉ before → (Verb.all.idxOf w < Verb.all.idxOf v ↔ w ∈ before) := by
    intro before after v w hall hv
    rw [hall, List.idxOf_append, List.idxOf_append, if_neg hv, List.idxOf_cons_self, Nat.zero_add]
    split_ifs with hw
    · exact iff_of_true (List.idxOf_lt_length_of_mem hw) hw
    · exact iff_of_false (by omega) hw
  unfold ofLine?
  rw [List.findSome?_eq_some_iff]
  constructor
  · rintro ⟨before, v, after, hall, hv, hnone⟩
    obtain ⟨rfl, -⟩ := verb_form_of_ofVerb? hv
    have hmem : s.verb ∉ before := by
      intro hmem
      rw [hnone _ hmem] at hv
      cases hv
    exact ⟨hv, fun w hw => hnone w ((hbefore hall hmem).mp hw)⟩
  · rintro ⟨hv, hnone⟩
    obtain ⟨before, after, hall, hfirst⟩ := List.eq_append_cons_of_mem s.verb.mem_all
    exact ⟨before, s.verb, after, hall, hv, fun w hw => hnone w ((hbefore hall hfirst).mpr hw)⟩

/-- If there is a reading for a verb that does not come after the one of the line, then it is the
one of the line, since no earlier verb reads it, and the literals of the sentence end no earlier
than those of the reading. -/
lemma reads_of_ofLine? {v : Verb} {line after : List Char} {s : Sentence}
    {texts : List (List Char)} (hfeed : '\n' ∉ line) (hs : ofLine? line = some s)
    (hv : Verb.all.idxOf v ≤ Verb.all.idxOf s.verb)
    (h : Part.Reads v.shape line texts (some after)) :
    s.verb = v ∧ ∃ t, Part.Reads v.shape line s.texts (some t) ∧ t.length ≤ after.length := by
  obtain ⟨hread, hbefore⟩ := ofLine?_eq_some_iff.mp hs
  obtain ⟨texts', after', hread', hreads', hle⟩ := Part.read_of_reads v.isFitting_shape hfeed h
  obtain ⟨s', hs', htexts⟩ := exists_ofTexts? hreads'
  have hv' : ofVerb? v line = some s' := by
    rw [ofVerb?, hread', Option.bind_some, hs']
  have hge : Verb.all.idxOf s.verb ≤ Verb.all.idxOf v := by
    by_contra hlt
    rw [hbefore v (by omega)] at hv'
    cases hv'
  obtain rfl : v = s.verb := (List.idxOf_inj v.mem_all).mp (le_antisymm hv hge)
  obtain rfl : s' = s := Option.some.inj (hv'.symm.trans hread)
  obtain ⟨t, rfl, hlength⟩ := hle after rfl
  exact ⟨rfl, t, htexts ▸ hreads', hlength⟩

end Sentence

/-! ## Rules -/

/-- The number of sharp signs in what a rule is written with. -/
def Rule.sharps (rule : Rule) : Nat :=
  (rule.scope.elim 0 fun p => p.text.count '#') +
    (rule.param.pattern?.elim 0 fun p => p.text.count '#') +
      rule.substitution.elim 0 fun s => s.written.count '#'

/-- A rule is written with the sharp signs of the literals of its sentence. -/
lemma Sentence.sharps_of_compile {line : List Char} {s : Sentence} {rule : Rule}
    (hform : s.form ≠ .percentage) (h : s.compile line = .ok rule) :
    rule.sharps = s.texts.flatten.count '#' := by
  have hsep : Literal.isSeparator '#' = false := by decide
  have hwhole : ∀ {e : List Char} {p : Pattern}, Literal.wholePattern line e = .ok p →
      p.text.count '#' = e.count '#' :=
    Literal.count_wholePattern hsep (by decide) (by decide) (by decide)
  have hsearch : ∀ {e : List Char} {p : Pattern}, Literal.searchPattern line e = .ok p →
      p.text.count '#' = e.count '#' := Literal.count_searchPattern hsep (by decide)
  cases s <;> simp only [compile, bind_eq_ok_iff, Except.ok.injEq] at h
  case bare v =>
    subst h
    rfl
  case key v text =>
    obtain ⟨p, hp, rfl⟩ := h
    simp [Rule.sharps, Rule.Param.pattern?, texts, hwhole hp]
  case scope v text =>
    obtain ⟨p, hp, rfl⟩ := h
    simp [Rule.sharps, Rule.Param.pattern?, texts, hwhole hp]
  case condition v name value =>
    obtain ⟨p, hp, h⟩ := h
    split at h <;> obtain ⟨q, hq, hrule⟩ := bind_eq_ok_iff.mp h <;> cases hrule
    · simp [Rule.sharps, Rule.Param.pattern?, texts, hwhole hp, hsearch hq]
    · simp [Rule.sharps, Rule.Param.pattern?, texts, hwhole hp, hwhole hq]
  case substitution v name find replacement =>
    obtain ⟨p, hp, q, hq, written, hwritten, rfl⟩ := h
    have hcount := Literal.count_decode hsep (by decide) hwritten
    simp [Rule.sharps, Rule.Param.pattern?, texts, hwhole hp, hsearch hq, hcount, Nat.add_assoc]
  case percentage v digits => exact absurd rfl hform

/-- A percentage is read without literals. -/
lemma Verb.not_isLiteralPart_shape {v : Verb} (h : v.form = .percentage) :
    v.shape.any Part.isLiteralPart = false := by
  cases v <;> first | rfl | exact absurd h (by decide)

namespace Rule

/-- A comment behind a line is drawn into a literal: for the verb `verb`, or for one that lines are
compared with before it, there is a reading of both together whose last literal ends within the
comment. -/
def DrawsIn (verb : Verb) (line comment : List Char) : Prop :=
  ∃ v texts after, Verb.all.idxOf v ≤ Verb.all.idxOf verb ∧
    Part.Reads v.shape (line ++ ' ' :: '#' :: comment) texts (some after) ∧
      after.length < comment.length

/-- **When a comment is harmless.** A comment behind a rule leaves it the rule that it is, with the
same verb, scope, first parameter and replacement, if and only if the comment is not drawn into a
literal.

**Proof sketch.** If it is not drawn in, every verb up to the one of the rule reads the line with
the comment as it reads the line alone (`Part.read_append`). If it is, the first verb that reads
both together is another one, or its last literal ends within the comment as well
(`Sentence.reads_of_ofLine?`). Then its literals have more sharp signs than those of the line alone
(`Part.Reads.sharps_lt`), and what they stand for is not the same. -/
theorem parse_append_iff {line comment : List Char} {rule : Rule} (hline : '\n' ∉ line)
    (hcomment : '\n' ∉ comment) (h : parse line = .ok (some rule)) :
    parse (line ++ ' ' :: '#' :: comment) = .ok (some rule) ↔ ¬DrawsIn rule.verb line comment := by
  obtain ⟨htail, s, hs, hrule⟩ := parse_eq_some_iff.mp h
  obtain ⟨hread, hbefore⟩ := Sentence.ofLine?_eq_some_iff.mp hs
  obtain ⟨hverb, -⟩ := Sentence.hasForm_of_compile (Sentence.form_of_ofLine? hs) hrule
  rw [parse_eq_some_iff]
  constructor
  · rintro ⟨-, s', hs', hrule'⟩ ⟨v, texts, after, hv, hreads, hafter⟩
    obtain ⟨hverb', -⟩ := Sentence.hasForm_of_compile (Sentence.form_of_ofLine? hs') hrule'
    have hfeed : '\n' ∉ line ++ ' ' :: '#' :: comment := by simp [hline, hcomment]
    -- the verb with the reading is the one of the rule, with or without the comment
    obtain ⟨rfl, t, hreads', hlength⟩ := Sentence.reads_of_ofLine? hfeed hs' (hverb' ▸ hv) hreads
    have hsame : s.verb = s'.verb := hverb.symm.trans hverb'
    have hliterals : s'.form ≠ .percentage := by
      intro hpercentage
      rw [Sentence.form_of_ofLine? hs'] at hpercentage
      cases hreads'.after_eq_none (Verb.not_isLiteralPart_shape hpercentage)
    have hform : s.form = s'.form := by
      rw [Sentence.form_of_ofLine? hs, Sentence.form_of_ofLine? hs', hsame]
    -- the same rule would have to be written with different numbers of sharp signs
    obtain ⟨after', halone⟩ := Sentence.reads_of_ofVerb? hread
    rw [hsame] at halone
    have hlt := halone.sharps_lt s'.verb.isFitting_shape hreads' (by omega)
    rw [← Sentence.sharps_of_compile (hform ▸ hliterals) hrule,
      ← Sentence.sharps_of_compile hliterals hrule'] at hlt
    exact lt_irrefl _ hlt
  · intro hkept
    have hsame : ∀ v, Verb.all.idxOf v ≤ Verb.all.idxOf s.verb →
        Sentence.ofVerb? v (line ++ ' ' :: '#' :: comment) = Sentence.ofVerb? v line := by
      intro v hv
      unfold Sentence.ofVerb?
      rw [Part.read_append v.isFitting_shape hcomment]
      intro texts after hreads
      by_contra hshort
      exact hkept ⟨v, texts, after, hverb ▸ hv, hreads, by omega⟩
    refine ⟨by rw [Part.isTail_append hcomment, htail], s, ?_, Sentence.compile_congr hrule⟩
    refine Sentence.ofLine?_eq_some_iff.mpr ⟨?_, fun v hv => ?_⟩
    · rw [hsame _ le_rfl, hread]
    · rw [hsame v hv.le, hbefore v hv]

/-- The verb at the end of a comment may be taken for the one of the line: the literal then has a
separator in its middle, and there is no rule at all. -/
theorem parse_append_remove :
    ∃ rule, parse "/a/ remove".toList = .ok (some rule) ∧
      parse ("/a/ remove".toList ++ ' ' :: '#' :: " x/ remove".toList) =
        .error (.unescapedSeparator '/' "/a/ remove # x/ remove") :=
  ⟨⟨.remove, Pattern.compile? "^a$".toList, .none, none⟩, by rfl, by rfl⟩

/-- Of two comments behind one rule the first one is drawn in, and the second one is not. -/
theorem parse_append_iff_remove :
    DrawsIn .remove "/a/ remove".toList " x/ remove".toList ∧
      ¬DrawsIn .remove "/a/ remove".toList " x/ ".toList := by
  have hline : parse "/a/ remove".toList =
      .ok (some ⟨.remove, Pattern.compile? "^a$".toList, .none, none⟩) := by rfl
  have herror : parse ("/a/ remove".toList ++ ' ' :: '#' :: " x/ remove".toList) =
      .error (.unescapedSeparator '/' "/a/ remove # x/ remove") := by rfl
  constructor
  · by_contra hkept
    have hboth := (parse_append_iff (by decide) (by decide) hline).mpr hkept
    cases hboth.symm.trans herror
  · exact (parse_append_iff (by decide) (by decide) hline).mp (by rfl)

/-- A comment without separators leaves a rule the rule that it is. -/
lemma parse_append_of_not_mem {line comment : List Char} {rule : Rule} (hline : '\n' ∉ line)
    (hcomment : '\n' ∉ comment) (hfree : ∀ c ∈ comment, Literal.isSeparator c = false)
    (h : parse line = .ok (some rule)) :
    parse (line ++ ' ' :: '#' :: comment) = .ok (some rule) := by
  refine (parse_append_iff hline hcomment h).mpr ?_
  rintro ⟨v, texts, after, -, hreads, hshort⟩
  obtain ⟨d, hd, hsuffix⟩ := hreads.exists_separator rfl
  have hinside : d :: after <:+ comment :=
    List.suffix_of_suffix_length_le hsuffix (Part.suffix_append_comment line comment) hshort
  rw [hfree d (hinside.subset List.mem_cons_self)] at hd
  cases hd

end Rule

end HttpAudit
