import HttpAudit.Proofs.Rule.Spelling

set_option relaxedAutoImplicit false
set_option autoImplicit false

/-!
# Lines with one reading

A line may be a spelling of many sentences, since a literal may have separators within it. If the
literals of one of these sentences have none, and do not end in blanks, there are no others: the
verb must stand outside the literals of this sentence, and then each of its literals must be one.

## Main definitions

* `HttpAudit.Literal.segments` — the texts between the separators of a line.
* `HttpAudit.Literal.IsPlain` — a literal without separators within it, and without blanks at its
  end.
* `HttpAudit.Sentence.lead`, `HttpAudit.Sentence.steps` — a spelling as a text and the literals that
  follow it, each with the text behind it.
* `HttpAudit.Sentence.IsOutside` — a text between separators can be in no plain literal.

## Main results

* `HttpAudit.Sentence.eq_of_spell_eq` — a sentence with plain literals shares its spellings with
  no other sentence.
-/

namespace HttpAudit

namespace Text

/-- Whether keywords can have the character: it is a small letter or an underscore. -/
def isKeywordChar (c : Char) : Bool :=
  ('a'.toNat ≤ c.toNat && c.toNat ≤ 'z'.toNat) || c == '_'

/-- The characters of a text that keywords can have. -/
def letters (s : List Char) : List Char := s.filter isKeywordChar

@[simp] lemma letters_append (s t : List Char) : letters (s ++ t) = letters s ++ letters t :=
  List.filter_append s t

/-- Blanks are not in keywords. -/
lemma letters_of_isBlank {s : List Char} (h : ∀ c ∈ s, isBlank c = true) : letters s = [] := by
  refine List.filter_eq_nil_iff.mpr fun c hc hletter => ?_
  have hblank := h c hc
  simp only [isKeywordChar, Bool.or_eq_true, Bool.and_eq_true, decide_eq_true_eq,
    beq_iff_eq] at hletter
  rcases hletter with hrange | rfl
  · simp only [isBlank, Bool.or_eq_true, Bool.and_eq_true, decide_eq_true_eq, beq_iff_eq] at hblank
    have hfirst : 'a'.toNat = 97 := rfl
    have hlast : 'z'.toNat = 122 := rfl
    omega
  · exact absurd hblank (by decide)

/-- Digits are not in keywords. -/
lemma letters_of_isDigit {s : List Char} (h : ∀ c ∈ s, c.isDigit = true) : letters s = [] := by
  refine List.filter_eq_nil_iff.mpr fun c hc hletter => ?_
  have hdigit : 48 ≤ c.toNat ∧ c.toNat ≤ 57 := by
    simpa [Char.isDigit, UInt32.le_iff_toNat_le] using h c hc
  simp only [isKeywordChar, Bool.or_eq_true, Bool.and_eq_true, decide_eq_true_eq,
    beq_iff_eq] at hletter
  rcases hletter with hrange | rfl
  · have hfirst : 'a'.toNat = 97 := rfl
    omega
  · exact absurd hdigit (by decide)

end Text

namespace Verb

/-- Keywords are made of letters and underscores. -/
@[simp] lemma letters_keyword (v : Verb) : Text.letters v.keyword.toList = v.keyword.toList := by
  cases v <;> decide

/-- Keywords are not empty. -/
lemma keyword_ne_nil (v : Verb) : v.keyword.toList ≠ [] := by
  cases v <;> decide

/-- Verbs have different keywords. -/
lemma keyword_injective {v w : Verb} (h : v.keyword.toList = w.keyword.toList) : v = w := by
  have hall : ∀ v ∈ Verb.all, ∀ w ∈ Verb.all, v.keyword.toList = w.keyword.toList → v = w := by
    decide +kernel
  exact hall v v.mem_all w w.mem_all h

end Verb

/-! ## Texts between separators -/

namespace Literal

/-- The text has no separators. -/
def IsFree (s : List Char) : Prop := ∀ c ∈ s, isSeparator c = false

instance (s : List Char) : Decidable (IsFree s) := List.decidableBAll _ s

/-- A text has no separators if its halves have none. -/
@[simp] lemma isFree_append_iff {s t : List Char} : IsFree (s ++ t) ↔ IsFree s ∧ IsFree t := by
  simp only [IsFree, List.mem_append, or_imp, forall_and]

/-- Blanks are no separators. -/
lemma isFree_of_isBlank {s : List Char} (h : ∀ c ∈ s, Text.isBlank c = true) : IsFree s := by
  intro c hc
  by_contra hsep
  have hblank := (Part.not_isBlank_of_isSeparator (by simpa using hsep)).1
  rw [h c hc] at hblank
  cases hblank

/-- Digits are no separators. -/
lemma isFree_of_isDigit {s : List Char} (h : ∀ c ∈ s, c.isDigit = true) : IsFree s := by
  intro c hc
  by_contra hsep
  have hmem : c ∈ separators := by simpa [isSeparator] using hsep
  have hnone : separators.all (fun d => !d.isDigit) = true := by decide
  have hdigit := List.all_eq_true.mp hnone c hmem
  rw [h c hc] at hdigit
  cases hdigit

/-- Separators are not in keywords. -/
@[simp] lemma isFree_keyword (v : Verb) : IsFree v.keyword.toList := by
  cases v <;> decide

end Literal

namespace Text.Gap

/-- Blanks on one line are no separators. -/
@[simp] lemma isFree (g : Gap) : Literal.IsFree g.chars := Literal.isFree_of_isBlank g.isBlank

/-- Blanks on one line are not in keywords. -/
@[simp] lemma letters_chars (g : Gap) : letters g.chars = [] := letters_of_isBlank g.isBlank

end Text.Gap

namespace Literal

/-- The texts between the separators of a line. -/
def segments (s : List Char) : List (List Char) := s.splitOnP isSeparator

/-- What stands between the ends of a literal. -/
def core (l : List Char) : List Char := l.tail.dropLast

/-- A literal is what stands between its ends, and two separators. -/
lemma exists_core {least : Nat} {l : List Char} (h : Part.IsLiteral least l) :
    ∃ c d, l = c :: (core l ++ [d]) ∧ isSeparator c = true ∧ isSeparator d = true := by
  obtain ⟨c, inner, d, rfl, hc, hd, -⟩ := h
  exact ⟨c, d, by simp [core], hc, hd⟩

/-- The texts between the separators around literals. -/
lemma segments_steps {lead : List Char} {steps : List (List Char × List Char)} (hlead : IsFree lead)
    (hsteps : ∀ p ∈ steps, Part.IsLiteral 0 p.1 ∧ IsFree p.2) :
    segments (lead ++ steps.flatMap fun p => p.1 ++ p.2) =
      lead :: steps.flatMap fun p => segments (core p.1) ++ [p.2] := by
  unfold segments
  induction steps generalizing lead with
  | nil => simp [List.splitOnP_eq_singleton hlead]
  | cons p steps ih =>
    obtain ⟨⟨hl, hgap⟩, hrest⟩ := List.forall_mem_cons.mp hsteps
    obtain ⟨c, d, hp, hc, hd⟩ := exists_core hl
    have hline : lead ++ (p :: steps).flatMap (fun p => p.1 ++ p.2) =
        lead ++ c :: (core p.1 ++ d :: (p.2 ++ steps.flatMap fun p => p.1 ++ p.2)) := by
      rw [List.flatMap_cons, hp]
      simp [core]
    rw [hline, List.splitOnP_append_cons_of_forall_mem hlead c hc,
      List.splitOnP_append_cons _ _ hd, ih hgap hrest]
    simp

/-- What stands before the first separator of a text, this separator, and what follows it. -/
lemma append_cons_inj {s s' t t' : List Char} {c c' : Char} (hs : IsFree s) (hs' : IsFree s')
    (hc : isSeparator c = true) (hc' : isSeparator c' = true) (h : s ++ c :: t = s' ++ c' :: t') :
    s = s' ∧ c = c' ∧ t = t' := by
  induction s generalizing s' with
  | nil =>
    cases s' with
    | nil => simpa using h
    | cons e s' =>
      obtain rfl : c = e := by simpa using (List.cons.inj h).1
      rw [hs' c List.mem_cons_self] at hc
      cases hc
  | cons e s ih =>
    cases s' with
    | nil =>
      obtain rfl : e = c' := by simpa using (List.cons.inj h).1
      rw [hs e List.mem_cons_self] at hc'
      cases hc'
    | cons e' s' =>
      simp only [List.cons_append, List.cons.injEq] at h
      obtain ⟨rfl, h⟩ := h
      obtain ⟨rfl, rfl, rfl⟩ := ih (fun c hc => hs c (List.mem_cons_of_mem _ hc))
        (fun c hc => hs' c (List.mem_cons_of_mem _ hc)) h
      exact ⟨rfl, rfl, rfl⟩

/-- A literal without separators within it, and without blanks at its end. -/
def IsPlain (l : List Char) : Prop :=
  Part.IsLiteral 0 l ∧ IsFree (core l) ∧ (core l).getLast?.any Text.isBlank = false

end Literal

namespace Sentence

/-! ## The verb of a line -/

/-- The text of a line before its first literal. -/
def lead (m : Margins) : Sentence → List Char
  | bare verb => m.before.chars ++ verb.keyword.toList ++ m.behind.chars
  | key verb _ => m.before.chars ++ verb.keyword.toList ++ m.afterVerb.chars
  | scope _ _ | condition _ _ _ | substitution _ _ _ _ => m.before.chars
  | percentage verb digits =>
    m.before.chars ++ verb.keyword.toList ++ m.afterVerb.chars ++ digits ++ m.behind.chars

/-- The literals of a line, each with the text behind it. -/
def steps (m : Margins) : Sentence → List (List Char × List Char)
  | bare _ | percentage _ _ => []
  | key _ text => [(text, m.behind.chars)]
  | scope verb name => [(name, m.beforeVerb.chars ++ verb.keyword.toList ++ m.behind.chars)]
  | condition verb name value =>
    [(name, m.beforeVerb.chars ++ verb.keyword.toList ++ m.afterVerb.chars),
     (value, m.behind.chars)]
  | substitution verb name find replacement =>
    [(name, m.beforeVerb.chars ++ verb.keyword.toList ++ m.afterVerb.chars),
     (find, [','] ++ m.afterComma.chars), (replacement, m.behind.chars)]

/-- A spelling is what stands before its literals, and the literals with what stands behind them. -/
lemma spell_eq (m : Margins) (s : Sentence) :
    s.spell m = s.lead m ++ (s.steps m).flatMap fun p => p.1 ++ p.2 := by
  cases s <;> simp [spell, lead, steps]

/-- Outside its literals a spelling has no separators. -/
lemma isFree_lead_steps {s : Sentence} (hs : s.IsApt) (m : Margins) :
    Literal.IsFree (s.lead m) ∧
      ∀ p ∈ s.steps m, Part.IsLiteral 0 p.1 ∧ Literal.IsFree p.2 := by
  have hzero : ∀ {l : List Char}, Part.IsLiteral 1 l → Part.IsLiteral 0 l := by
    rintro _ ⟨c, inner, d, rfl, hc, hd, -, hinner⟩
    exact ⟨c, inner, d, rfl, hc, hd, Nat.zero_le _, hinner⟩
  have hcomma : Literal.IsFree [','] := by decide
  obtain ⟨-, hapt⟩ := hs
  cases s with
  | bare v => simp [lead, steps]
  | key v text => simp [lead, steps, hzero hapt]
  | scope v name => simp [lead, steps, hzero hapt]
  | condition v name value => simp [lead, steps, hzero hapt.1, hzero hapt.2]
  | substitution v name find replacement =>
    simp only [lead, steps, List.forall_mem_cons, Literal.isFree_append_iff]
    exact ⟨m.before.isFree, ⟨hzero hapt.1, by simp⟩, ⟨hzero hapt.2.1, hcomma, m.afterComma.isFree⟩,
      ⟨hapt.2.2, m.behind.isFree⟩, by simp⟩
  | percentage v digits => simp [lead, steps, Literal.isFree_of_isDigit hapt.2]

/-- The texts between the separators of a spelling. -/
lemma segments_spell {s : Sentence} (hs : s.IsApt) (m : Margins) :
    Literal.segments (s.spell m) =
      s.lead m :: (s.steps m).flatMap fun p => Literal.segments (Literal.core p.1) ++ [p.2] := by
  obtain ⟨hlead, hsteps⟩ := isFree_lead_steps hs m
  rw [spell_eq, Literal.segments_steps hlead hsteps]

/-- A text between separators that can be in no plain literal: the first one, the last one, or one
that ends in a blank. -/
def IsOutside (line x : List Char) : Prop :=
  (Literal.segments line).head? = some x ∨ (Literal.segments line).getLast? = some x ∨
    x ∈ Literal.segments line ∧ x.getLast?.any Text.isBlank = true

/-- What is outside the literals of a line has the keyword, or none of its characters. -/
lemma letters_lead_steps {s : Sentence} (hs : s.IsApt) (m : Margins) :
    ∀ x ∈ s.lead m :: (s.steps m).map (·.2),
      Text.letters x = [] ∨ Text.letters x = s.verb.keyword.toList := by
  have hcomma : Text.letters [','] = [] := by decide
  obtain ⟨-, hapt⟩ := hs
  cases s with
  | bare v => simp [lead, steps, verb]
  | key v text => simp [lead, steps, verb]
  | scope v name => simp [lead, steps, verb]
  | condition v name value => simp [lead, steps, verb]
  | substitution v name find replacement =>
    simp only [lead, steps, verb, List.map_cons, List.map_nil, List.forall_mem_cons,
      Text.letters_append, hcomma]
    simp
  | percentage v digits => simp [lead, steps, verb, Text.letters_of_isDigit hapt.2]

/-- What is outside plain literals has the keyword, or none of its characters. -/
lemma letters_of_isOutside {s : Sentence} (hs : s.IsApt) {m : Margins}
    (hplain : ∀ p ∈ s.steps m, Literal.IsPlain p.1) {x : List Char} (hx : IsOutside (s.spell m) x) :
    Text.letters x = [] ∨ Text.letters x = s.verb.keyword.toList := by
  apply letters_lead_steps hs m
  unfold IsOutside at hx
  rw [segments_spell hs m] at hx
  rcases hx with hfirst | hlast | ⟨hmem, hblank⟩
  · obtain rfl := Option.some.inj hfirst
    exact List.mem_cons_self
  · rcases List.eq_nil_or_concat (s.steps m) with hnil | ⟨init, p, hinit⟩
    · rw [hnil] at hlast ⊢
      obtain rfl : s.lead m = x := by simpa using hlast
      exact List.mem_cons_self
    · rw [hinit] at hlast ⊢
      obtain rfl : p.2 = x := by
        simpa [List.getLast?_cons, ← List.append_assoc] using hlast
      simp
  · rcases List.mem_cons.mp hmem with rfl | hmem
    · exact List.mem_cons_self
    obtain ⟨p, hp, hmem⟩ := List.mem_flatMap.mp hmem
    rcases List.mem_append.mp hmem with hcore | hgap
    · -- the core of a plain literal does not end in a blank
      obtain ⟨-, hfree, hend⟩ := hplain p hp
      rw [Literal.segments, List.splitOnP_eq_singleton hfree, List.mem_singleton] at hcore
      subst hcore
      rw [hend] at hblank
      cases hblank
    · rw [List.mem_singleton.mp hgap]
      exact List.mem_cons_of_mem _ (List.mem_map_of_mem hp)

/-- The keyword of a spelling stands outside plain literals. -/
lemma exists_isOutside {s : Sentence} (hs : s.IsApt) (m : Margins) :
    ∃ x, IsOutside (s.spell m) x ∧ Text.letters x = s.verb.keyword.toList := by
  have hend : ∀ u : List Char, (u ++ m.afterVerb.chars).getLast?.any Text.isBlank = true := by
    intro u
    obtain ⟨c, hc⟩ := Option.ne_none_iff_exists'.mp (mt List.getLast?_eq_none_iff.mp m.afterVerb_ne)
    have hblank : Text.isBlank c = true := m.afterVerb.isBlank c (List.mem_of_getLast? hc)
    simp [hc, hblank]
  unfold IsOutside
  rw [segments_spell hs m]
  obtain ⟨-, hapt⟩ := hs
  cases s with
  | bare v => exact ⟨_, .inl rfl, by simp [lead, verb]⟩
  | key v text => exact ⟨_, .inl rfl, by simp [lead, verb]⟩
  | scope v name =>
    refine ⟨m.beforeVerb.chars ++ v.keyword.toList ++ m.behind.chars, .inr (.inl ?_),
      by simp [verb]⟩
    simp [steps, List.getLast?_cons]
  | condition v name value =>
    refine ⟨m.beforeVerb.chars ++ v.keyword.toList ++ m.afterVerb.chars, .inr (.inr ⟨?_, hend _⟩),
      by simp [verb]⟩
    simp [steps]
  | substitution v name find replacement =>
    refine ⟨m.beforeVerb.chars ++ v.keyword.toList ++ m.afterVerb.chars, .inr (.inr ⟨?_, hend _⟩),
      by simp [verb]⟩
    simp [steps]
  | percentage v digits => exact ⟨_, .inl rfl, by simp [lead, verb, Text.letters_of_isDigit hapt.2]⟩

/-- A spelling with plain literals is a spelling with no other verb. -/
lemma verb_eq_of_spell_eq {s s' : Sentence} (hs : s.IsApt) (hs' : s'.IsApt) {m m' : Margins}
    (hplain : ∀ p ∈ s.steps m, Literal.IsPlain p.1) (h : s.spell m = s'.spell m') :
    s'.verb = s.verb := by
  obtain ⟨x, hx, hletters⟩ := exists_isOutside hs' m'
  rw [← h] at hx
  rcases letters_of_isOutside hs hplain hx with hnone | hkeyword
  · rw [hletters] at hnone
    exact absurd hnone s'.verb.keyword_ne_nil
  · rw [hletters] at hkeyword
    exact Verb.keyword_injective hkeyword

end Sentence

/-! ## The literals of a line -/

namespace Literal

variable {lead lead' : List Char} {steps steps' : List (List Char × List Char)}

/-- The separators of a text without separators in which literals stand are their ends, and those
within the literals. -/
lemma countP_steps (hlead : IsFree lead)
    (hsteps : ∀ p ∈ steps, Part.IsLiteral 0 p.1 ∧ IsFree p.2) :
    (lead ++ steps.flatMap fun p => p.1 ++ p.2).countP isSeparator =
      2 * steps.length + (steps.flatMap fun p => core p.1).countP isSeparator := by
  have hnone : ∀ {s : List Char}, IsFree s → s.countP isSeparator = 0 := by
    intro s hs
    exact List.countP_eq_zero.mpr fun c hc => by simp [hs c hc]
  rw [List.countP_append, hnone hlead, Nat.zero_add]
  clear hlead
  induction steps with
  | nil => rfl
  | cons p steps ih =>
    obtain ⟨⟨hl, hgap⟩, hrest⟩ := List.forall_mem_cons.mp hsteps
    obtain ⟨c, d, hp, hc, hd⟩ := exists_core hl
    have hcount : p.1.countP isSeparator = (core p.1).countP isSeparator + 2 := by
      rw [hp]
      simp [core, hc, hd]
    rw [List.flatMap_cons, List.countP_append, List.countP_append, hcount, hnone hgap, ih hrest,
      List.flatMap_cons, List.countP_append, List.length_cons]
    omega

/-- Of two texts that are equal, in which equally many literals stand, and in one of which the
literals have no separators within them, both have the same literals.

**Proof sketch.** The separators of the one text are the ends of its literals. So are those of the
other one, since there are equally many. Then what is before the first separator, between the
separators, and behind the last one is the same in both texts. -/
lemma steps_inj (hlead : IsFree lead) (hlead' : IsFree lead')
    (hsteps : ∀ p ∈ steps, Part.IsLiteral 0 p.1 ∧ IsFree p.2)
    (hsteps' : ∀ p ∈ steps', Part.IsLiteral 0 p.1 ∧ IsFree p.2)
    (hfree : ∀ p ∈ steps, IsFree (core p.1)) (hlength : steps'.length = steps.length)
    (h : (lead ++ steps.flatMap fun p => p.1 ++ p.2) =
      lead' ++ steps'.flatMap fun p => p.1 ++ p.2) :
    lead = lead' ∧ steps = steps' := by
  have hfree' : ∀ p ∈ steps', IsFree (core p.1) := by
    have hcount := congrArg (List.countP isSeparator) h
    have hnone : (steps.flatMap fun p => core p.1).countP isSeparator = 0 := by
      refine List.countP_eq_zero.mpr fun c hc => ?_
      obtain ⟨p, hp, hc⟩ := List.mem_flatMap.mp hc
      simp [hfree p hp c hc]
    rw [countP_steps hlead hsteps, countP_steps hlead' hsteps', hlength, hnone,
      Nat.add_left_cancel_iff] at hcount
    intro p hp c hc
    simpa using List.countP_eq_zero.mp hcount.symm c (List.mem_flatMap.mpr ⟨p, hp, hc⟩)
  induction steps generalizing lead lead' steps' with
  | nil =>
    obtain rfl := List.length_eq_zero_iff.mp hlength
    exact ⟨by simpa using h, rfl⟩
  | cons p steps ih =>
    cases steps' with
    | nil => cases hlength
    | cons p' steps' =>
      obtain ⟨⟨hl, hgap⟩, hrest⟩ := List.forall_mem_cons.mp hsteps
      obtain ⟨⟨hl', hgap'⟩, hrest'⟩ := List.forall_mem_cons.mp hsteps'
      obtain ⟨hcore, hcores⟩ := List.forall_mem_cons.mp hfree
      obtain ⟨hcore', hcores'⟩ := List.forall_mem_cons.mp hfree'
      obtain ⟨c, d, hp, hc, hd⟩ := exists_core hl
      obtain ⟨c', d', hp', hc', hd'⟩ := exists_core hl'
      rw [List.flatMap_cons, List.flatMap_cons, hp, hp'] at h
      simp only [List.cons_append, List.append_assoc, List.nil_append] at h
      obtain ⟨rfl, rfl, hinside⟩ := append_cons_inj hlead hlead' hc hc' h
      obtain ⟨hsame, rfl, hbehind⟩ := append_cons_inj hcore hcore' hd hd' hinside
      obtain ⟨hgaps, rfl⟩ :=
        ih hgap hgap' hrest hrest' hcores (Nat.succ.inj hlength) hbehind hcores'
      have hpp : p = p' := Prod.ext (by rw [hp, hp', hsame]) hgaps
      exact ⟨rfl, by rw [hpp]⟩

end Literal

namespace Sentence

/-- The digits of a spelling are those of its percentage. -/
lemma digits_lead {v : Verb} {digits : List Char} (hs : (percentage v digits).IsApt) (m : Margins) :
    ((percentage v digits).lead m).filter Char.isDigit = digits := by
  have hblank : ∀ gap : Text.Gap, gap.chars.filter Char.isDigit = [] := by
    intro gap
    refine List.filter_eq_nil_iff.mpr fun c hc hdigit => ?_
    have hnot := (Part.not_isBlank_of_isDigit hdigit).1
    rw [gap.isBlank c hc] at hnot
    cases hnot
  have hkeyword : v.keyword.toList.filter Char.isDigit = [] := by cases v <;> decide
  have hdigits : digits.filter Char.isDigit = digits := List.filter_eq_self.mpr hs.2.2
  simp [lead, *]

/-- A sentence with plain literals shares its spellings with no other sentence.

**Proof sketch.** The keyword of any sentence with the same spelling stands between two separators,
at an end of the line or before a blank, so outside the plain literals. Hence both sentences have
the same verb, therefore equally many literals, and these are the same. -/
theorem eq_of_spell_eq {s s' : Sentence} (hs : s.IsApt) (hs' : s'.IsApt) {m m' : Margins}
    (hplain : ∀ p ∈ s.steps m, Literal.IsPlain p.1) (h : s.spell m = s'.spell m') : s' = s := by
  have hverb := verb_eq_of_spell_eq hs hs' hplain h
  obtain ⟨hlead, hsteps⟩ := isFree_lead_steps hs m
  obtain ⟨hlead', hsteps'⟩ := isFree_lead_steps hs' m'
  have hform : s'.form = s.form := by rw [hs.1, hs'.1, hverb]
  have hlength : (s'.steps m').length = (s.steps m).length := by
    cases s <;> cases s' <;> first | rfl | cases hform
  rw [spell_eq, spell_eq] at h
  obtain ⟨hlead, hsteps⟩ := Literal.steps_inj hlead hlead' hsteps hsteps'
    (fun p hp => (hplain p hp).2.1) hlength h
  cases s <;> cases s' <;> simp only [form, reduceCtorEq] at hform <;>
    simp only [verb] at hverb <;> subst hverb <;>
    simp only [steps, List.cons.injEq, Prod.mk.injEq, and_true] at hsteps
  case bare => rfl
  case key => rw [hsteps.1]
  case scope => rw [hsteps.1]
  case condition => rw [hsteps.1.1, hsteps.2.1]
  case substitution => rw [hsteps.1.1, hsteps.2.1.1, hsteps.2.2.1]
  case percentage v digits digits' =>
    have hdigits := congrArg (List.filter Char.isDigit) hlead
    rw [digits_lead hs, digits_lead hs'] at hdigits
    rw [hdigits]

end Sentence

end HttpAudit
