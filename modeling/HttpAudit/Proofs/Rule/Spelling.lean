import HttpAudit.Proofs.Rule.Comment

set_option relaxedAutoImplicit false
set_option autoImplicit false

/-!
# How sentences are spelled

A sentence is spelled by its verb and its literals, in the order that the form of the verb gives and
with blanks between them. The lines that can be read for a verb are just the spellings of its
sentences, with a comment behind them or none.

## Main definitions

* `HttpAudit.Text.Gap`, `HttpAudit.Margins` — blanks on one line, and all those of a line.
* `HttpAudit.Sentence.spell` — the line of a sentence with given blanks.
* `HttpAudit.Sentence.IsApt` — a sentence has what the form of its verb asks for.

## Main results

* `HttpAudit.Part.isRead_blanks_iff` and the lemmas behind it — readings, part by part.
* `HttpAudit.Sentence.isRead_spell`, `HttpAudit.Sentence.exists_spell` — what can be read for a verb
  are the spellings of its sentences.
-/

namespace HttpAudit

/-! ## Blanks and comments of a line -/

namespace Text

/-- The text consists of blanks on one line. -/
def IsGap (s : List Char) : Prop :=
  (∀ c ∈ s, isBlank c = true) ∧ '\n' ∉ s

instance (s : List Char) : Decidable (IsGap s) :=
  have : Decidable (∀ c ∈ s, isBlank c = true) := List.decidableBAll _ s
  inferInstanceAs (Decidable ((∀ c ∈ s, isBlank c = true) ∧ '\n' ∉ s))

/-- The text is empty or a comment on one line. -/
def IsComment (s : List Char) : Prop :=
  (s = [] ∨ ∃ t, s = '#' :: t) ∧ '\n' ∉ s

/-- Blanks on one line. -/
structure Gap where
  /-- The blanks. -/
  chars : List Char
  /-- They are blanks on one line. -/
  isGap : IsGap chars

namespace Gap

/-- No blanks. -/
def empty : Gap := ⟨[], by decide⟩

/-- One space. -/
def space : Gap := ⟨[' '], by decide⟩

/-- Blanks are blank. -/
lemma isBlank (g : Gap) : ∀ c ∈ g.chars, Text.isBlank c = true := g.isGap.1

end Gap

end Text

/-- The blanks of a line. -/
structure Margins where
  /-- Before the rule. -/
  before : Text.Gap
  /-- Between a scope and the verb. -/
  beforeVerb : Text.Gap
  /-- Between the verb and what follows it. -/
  afterVerb : Text.Gap
  /-- Between the comma behind a pattern and the replacement for its matches. -/
  afterComma : Text.Gap
  /-- Behind the rule. -/
  behind : Text.Gap
  /-- The verb is parted from what follows it. -/
  afterVerb_ne : afterVerb.chars ≠ []
  /-- The comma is parted from the replacement. -/
  afterComma_ne : afterComma.chars ≠ []

/-! ## Spellings -/

namespace Sentence

/-- The line of a sentence with the given blanks. -/
def spell (m : Margins) : Sentence → List Char
  | bare verb => m.before.chars ++ verb.keyword.toList ++ m.behind.chars
  | key verb text =>
    m.before.chars ++ verb.keyword.toList ++ m.afterVerb.chars ++ text ++ m.behind.chars
  | scope verb name =>
    m.before.chars ++ name ++ m.beforeVerb.chars ++ verb.keyword.toList ++ m.behind.chars
  | condition verb name value =>
    m.before.chars ++ name ++ m.beforeVerb.chars ++ verb.keyword.toList ++ m.afterVerb.chars ++
      value ++ m.behind.chars
  | substitution verb name find replacement =>
    m.before.chars ++ name ++ m.beforeVerb.chars ++ verb.keyword.toList ++ m.afterVerb.chars ++
      find ++ [','] ++ m.afterComma.chars ++ replacement ++ m.behind.chars
  | percentage verb digits =>
    m.before.chars ++ verb.keyword.toList ++ m.afterVerb.chars ++ digits ++ m.behind.chars

/-- The sentence has the form of its verb, and literals or digits where this form asks for them.
Only a replacement may have no characters between its separators. -/
def IsApt (s : Sentence) : Prop :=
  s.form = s.verb.form ∧
    match s with
    | bare _ => True
    | key _ text => Part.IsLiteral 1 text
    | scope _ name => Part.IsLiteral 1 name
    | condition _ name value => Part.IsLiteral 1 name ∧ Part.IsLiteral 1 value
    | substitution _ name find replacement =>
      Part.IsLiteral 1 name ∧ Part.IsLiteral 1 find ∧ Part.IsLiteral 0 replacement
    | percentage _ digits => digits ≠ [] ∧ ∀ c ∈ digits, c.isDigit = true

end Sentence

/-! ## Readings, part by part -/

namespace Part

/-- A text can be read as the given parts and a tail, with the given literals and digits. -/
def IsRead (parts : List Part) (s : List Char) (texts : List (List Char)) : Prop :=
  ∃ after, Reads parts s texts after

/-- The tail of a line is blank up to a comment. -/
lemma isTail_iff {s : List Char} :
    isTail s = true ↔ ∃ b t, s = b ++ t ∧ (∀ c ∈ b, Text.isBlank c = true) ∧ Text.IsComment t := by
  constructor
  · intro h
    refine ⟨s.takeWhile Text.isBlank, Text.trimLeft s, ?_,
      fun c hc => List.mem_takeWhile_imp hc, ?_⟩
    · rw [Text.trimLeft, List.takeWhile_append_dropWhile]
    · unfold isTail at h
      split at h
      · next hs => exact ⟨.inl hs, by simp [hs]⟩
      · next t hs => exact ⟨.inr ⟨t, hs⟩, by simpa [hs] using h⟩
      · cases h
  · rintro ⟨b, t, rfl, hb, ht, hfeed⟩
    unfold isTail Text.trimLeft
    rw [List.dropWhile_append_of_pos hb]
    rcases ht with rfl | ⟨t, rfl⟩
    · rfl
    · have hsharp : Text.isBlank '#' = false := by decide
      simpa [hsharp] using hfeed

/-- Nothing is left to be read but the tail. -/
lemma isRead_nil_iff {s : List Char} {texts : List (List Char)} :
    IsRead [] s texts ↔ isTail s = true ∧ texts = [] := by
  constructor
  · rintro ⟨after, h⟩
    cases h with
    | tail h => exact ⟨h, rfl⟩
  · rintro ⟨h, rfl⟩
    exact ⟨none, .tail h⟩

/-- Blanks are read. -/
lemma isRead_blanks_iff {least : Nat} {parts : List Part} {s : List Char}
    {texts : List (List Char)} :
    IsRead (blanks least :: parts) s texts ↔
      ∃ b t, s = b ++ t ∧ (∀ c ∈ b, Text.isBlank c = true) ∧ least ≤ b.length ∧
        IsRead parts t texts := by
  constructor
  · rintro ⟨after, h⟩
    cases h with
    | @blanks _ _ b t _ _ hb hleast h => exact ⟨b, t, rfl, hb, hleast, after, h⟩
  · rintro ⟨b, t, rfl, hb, hleast, after, h⟩
    exact ⟨after, .blanks hb hleast h⟩

/-- A word is read. -/
lemma isRead_word_iff {w : List Char} {parts : List Part} {s : List Char}
    {texts : List (List Char)} :
    IsRead (word w :: parts) s texts ↔ ∃ t, s = w ++ t ∧ IsRead parts t texts := by
  constructor
  · rintro ⟨after, h⟩
    cases h with
    | @word _ t _ _ _ h => exact ⟨t, rfl, after, h⟩
  · rintro ⟨t, rfl, after, h⟩
    exact ⟨after, .word h⟩

/-- A literal is read. -/
lemma isRead_literal_iff {least : Nat} {parts : List Part} {s : List Char}
    {texts : List (List Char)} :
    IsRead (literal least :: parts) s texts ↔
      ∃ l t texts', s = l ++ t ∧ texts = l :: texts' ∧ IsLiteral least l ∧
        IsRead parts t texts' := by
  constructor
  · rintro ⟨after, h⟩
    cases h with
    | @literal _ _ l t texts' after hl h => exact ⟨l, t, texts', rfl, rfl, hl, after, h⟩
  · rintro ⟨l, t, texts', rfl, rfl, hl, after, h⟩
    exact ⟨_, .literal hl h⟩

/-- Digits are read. -/
lemma isRead_digits_iff {parts : List Part} {s : List Char} {texts : List (List Char)} :
    IsRead (digits :: parts) s texts ↔
      ∃ d t texts', s = d ++ t ∧ texts = d :: texts' ∧ d ≠ [] ∧ (∀ c ∈ d, c.isDigit = true) ∧
        IsRead parts t texts' := by
  constructor
  · rintro ⟨after, h⟩
    cases h with
    | @digits d t _ texts' _ hd hne h => exact ⟨d, t, texts', rfl, rfl, hne, hd, after, h⟩
  · rintro ⟨d, t, texts', rfl, rfl, hne, hd, after, h⟩
    exact ⟨after, .digits hd hne h⟩

end Part

namespace Sentence

/-- A spelling of a sentence, with a comment behind it or none, can be read for its verb. -/
lemma isRead_spell {s : Sentence} (hs : s.IsApt) (m : Margins) {comment : List Char}
    (hcomment : Text.IsComment comment) :
    Part.IsRead s.verb.shape (s.spell m ++ comment) s.texts := by
  obtain ⟨hform, hapt⟩ := hs
  have hbefore := m.before.isBlank
  have hverb := m.beforeVerb.isBlank
  have hafter := m.afterVerb.isBlank
  have hcomma := m.afterComma.isBlank
  have htail : Part.isTail (m.behind.chars ++ comment) = true :=
    Part.isTail_iff.mpr ⟨_, _, rfl, m.behind.isBlank, hcomment⟩
  have hpos : 1 ≤ m.afterVerb.chars.length := List.length_pos_iff.mpr m.afterVerb_ne
  have hcommaPos : 1 ≤ m.afterComma.chars.length := List.length_pos_iff.mpr m.afterComma_ne
  cases s <;> simp only [verb, form] at hform hapt ⊢ <;>
    simp only [spell, Verb.shape, ← hform, List.append_assoc, texts]
  case bare v =>
    exact ⟨_, .blanks hbefore (Nat.zero_le _) (.word (.tail htail))⟩
  case key v text =>
    exact ⟨_, .blanks hbefore (Nat.zero_le _)
      (.word (.blanks hafter hpos (.literal hapt (.tail htail))))⟩
  case scope v name =>
    exact ⟨_, .blanks hbefore (Nat.zero_le _)
      (.literal hapt (.blanks hverb (Nat.zero_le _) (.word (.tail htail))))⟩
  case condition v name value =>
    exact ⟨_, .blanks hbefore (Nat.zero_le _)
      (.literal hapt.1 (.blanks hverb (Nat.zero_le _)
        (.word (.blanks hafter hpos (.literal hapt.2 (.tail htail))))))⟩
  case substitution v name find replacement =>
    exact ⟨_, .blanks hbefore (Nat.zero_le _)
      (.literal hapt.1 (.blanks hverb (Nat.zero_le _)
        (.word (.blanks hafter hpos (.literal hapt.2.1
          (.word (.blanks hcomma hcommaPos (.literal hapt.2.2 (.tail htail)))))))))⟩
  case percentage v digits =>
    exact ⟨_, .blanks hbefore (Nat.zero_le _)
      (.word (.blanks hafter hpos (.digits hapt.2 hapt.1 (.tail htail))))⟩

/-- What can be read for the verb of a sentence, with its literals, is a spelling of the sentence,
with a comment behind it or none. -/
lemma exists_spell {s : Sentence} {line : List Char} (hform : s.form = s.verb.form)
    (hfeed : '\n' ∉ line) (h : Part.IsRead s.verb.shape line s.texts) :
    s.IsApt ∧ ∃ m comment, line = s.spell m ++ comment ∧ Text.IsComment comment := by
  cases s <;> simp only [verb, form, texts] at hform h <;>
    simp only [Verb.shape, ← hform, Part.isRead_blanks_iff, Part.isRead_word_iff,
      Part.isRead_literal_iff, Part.isRead_digits_iff, Part.isRead_nil_iff, Part.isTail_iff,
      List.cons.injEq] at h
  case bare v =>
    obtain ⟨b, _, rfl, hb, -, _, rfl, ⟨e, t, rfl, he, ht⟩, -⟩ := h
    simp only [List.mem_append, not_or] at hfeed
    obtain ⟨hbFeed, -, heFeed, -⟩ := hfeed
    let m : Margins := ⟨⟨b, hb, hbFeed⟩, .empty, .space, .space, ⟨e, he, heFeed⟩,
      by decide, by decide⟩
    exact ⟨⟨hform, trivial⟩, m, t, by simp [spell, m], ht⟩
  case key v text =>
    obtain ⟨b, _, rfl, hb, -, _, rfl, a, _, rfl, ha, hpos, _, _, _, rfl, ⟨rfl, -⟩, htext,
      ⟨e, t, rfl, he, ht⟩, rfl⟩ := h
    simp only [List.mem_append, not_or] at hfeed
    obtain ⟨hbFeed, -, haFeed, -, heFeed, -⟩ := hfeed
    let m : Margins := ⟨⟨b, hb, hbFeed⟩, .empty, ⟨a, ha, haFeed⟩, .space, ⟨e, he, heFeed⟩,
      List.length_pos_iff.mp hpos, by decide⟩
    exact ⟨⟨hform, htext⟩, m, t, by simp [spell, m], ht⟩
  case scope v name =>
    obtain ⟨b, _, rfl, hb, -, _, _, _, rfl, ⟨rfl, -⟩, hname, a, _, rfl, ha, -, _, rfl,
      ⟨e, t, rfl, he, ht⟩, rfl⟩ := h
    simp only [List.mem_append, not_or] at hfeed
    obtain ⟨hbFeed, -, haFeed, -, heFeed, -⟩ := hfeed
    let m : Margins := ⟨⟨b, hb, hbFeed⟩, ⟨a, ha, haFeed⟩, .space, .space, ⟨e, he, heFeed⟩,
      by decide, by decide⟩
    exact ⟨⟨hform, hname⟩, m, t, by simp [spell, m], ht⟩
  case condition v name value =>
    obtain ⟨b, _, rfl, hb, -, _, _, _, rfl, ⟨rfl, rfl⟩, hname, a, _, rfl, ha, -, _, rfl, a', _, rfl,
      ha', hpos, _, _, _, rfl, ⟨rfl, -⟩, hvalue, ⟨e, t, rfl, he, ht⟩, -⟩ := h
    simp only [List.mem_append, not_or] at hfeed
    obtain ⟨hbFeed, -, haFeed, -, haFeed', -, heFeed, -⟩ := hfeed
    let m : Margins := ⟨⟨b, hb, hbFeed⟩, ⟨a, ha, haFeed⟩, ⟨a', ha', haFeed'⟩, .space,
      ⟨e, he, heFeed⟩, List.length_pos_iff.mp hpos, by decide⟩
    exact ⟨⟨hform, hname, hvalue⟩, m, t, by simp [spell, m], ht⟩
  case substitution v name find replacement =>
    obtain ⟨b, _, rfl, hb, -, _, _, _, rfl, ⟨rfl, rfl⟩, hname, a, _, rfl, ha, -, _, rfl, a', _, rfl,
      ha', hpos, _, _, _, rfl, ⟨rfl, rfl⟩, hfind, _, rfl, a'', _, rfl, ha'', hpos', _, _, _, rfl,
      ⟨rfl, -⟩, hreplacement, ⟨e, t, rfl, he, ht⟩, -⟩ := h
    simp only [List.mem_append, not_or] at hfeed
    obtain ⟨hbFeed, -, haFeed, -, haFeed', -, -, haFeed'', -, heFeed, -⟩ := hfeed
    let m : Margins := ⟨⟨b, hb, hbFeed⟩, ⟨a, ha, haFeed⟩, ⟨a', ha', haFeed'⟩, ⟨a'', ha'', haFeed''⟩,
      ⟨e, he, heFeed⟩, List.length_pos_iff.mp hpos, List.length_pos_iff.mp hpos'⟩
    exact ⟨⟨hform, hname, hfind, hreplacement⟩, m, t, by simp [spell, m], ht⟩
  case percentage v digits =>
    obtain ⟨b, _, rfl, hb, -, _, rfl, a, _, rfl, ha, hpos, _, _, _, rfl, ⟨rfl, -⟩, hne, hdigits,
      ⟨e, t, rfl, he, ht⟩, rfl⟩ := h
    simp only [List.mem_append, not_or] at hfeed
    obtain ⟨hbFeed, -, haFeed, -, heFeed, -⟩ := hfeed
    let m : Margins := ⟨⟨b, hb, hbFeed⟩, .empty, ⟨a, ha, haFeed⟩, .space, ⟨e, he, heFeed⟩,
      List.length_pos_iff.mp hpos, by decide⟩
    exact ⟨⟨hform, hne, hdigits⟩, m, t, by simp [spell, m], ht⟩

end Sentence

end HttpAudit
