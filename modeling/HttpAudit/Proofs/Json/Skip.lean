import HttpAudit.Json.Skip
import HttpAudit.Proofs.Json.Array

set_option relaxedAutoImplicit false
set_option autoImplicit false

/-!
# Texts that are skipped

The texts of values, as the format has them: nothing is said about the size of numbers, about which
code units make a character, or about depth. All of them are skipped.

## Main definitions

* `HttpAudit.Json.IsNumber`, `HttpAudit.Json.IsQuotable` — the texts of numbers, and what may stand
  between quotation marks.
* `HttpAudit.Json.IsPiece`, `HttpAudit.Json.IsValue` — the texts of values, and of what they are
  made of.
* `HttpAudit.Json.Ends` — what may follow a value.

## Main results

* `HttpAudit.Json.IsPiece.isSkipped` — the texts of values are skipped, whatever follows them.
-/

namespace HttpAudit.Json

/-! ## The format -/

/-- There are digits, one at least. -/
def Digits (t : List Char) : Prop := t ≠ [] ∧ ∀ c ∈ t, c.isDigit = true

/-- There is one of the given signs, or none. -/
def OptionalSign (signs t : List Char) : Prop := t = [] ∨ ∃ c ∈ signs, t = [c]

/-- The integral part of a number has no leading zero. -/
inductive IsInteger : List Char → Prop
  /-- Zero. -/
  | zero : IsInteger ['0']
  /-- Digits of which the first one is not zero. -/
  | digits {t : List Char} (h : Digits t) (hzero : t.head? ≠ some '0') : IsInteger t

/-- The fraction of a number. -/
inductive IsFraction : List Char → Prop
  /-- There is none. -/
  | none : IsFraction []
  /-- Digits behind a point. -/
  | digits {t : List Char} (h : Digits t) : IsFraction ('.' :: t)

/-- The exponent of a number. -/
inductive IsExponent : List Char → Prop
  /-- There is none. -/
  | none : IsExponent []
  /-- Digits behind a letter, perhaps with a sign. -/
  | digits {c : Char} {sign t : List Char} (hc : c = 'e' ∨ c = 'E')
      (hsign : OptionalSign ['+', '-'] sign) (h : Digits t) :
      IsExponent (c :: (sign ++ t))

/-- The texts of numbers. -/
inductive IsNumber : List Char → Prop
  /-- A sign may stand in front. -/
  | parts {sign u v w : List Char} (hsign : OptionalSign ['-'] sign) (hu : IsInteger u)
      (hv : IsFraction v) (hw : IsExponent w) : IsNumber (sign ++ (u ++ (v ++ w)))

/-- What may stand between quotation marks, unit by unit. -/
inductive IsQuotable : List Char → Prop
  /-- Nothing more. -/
  | nil : IsQuotable []
  /-- A character, unless it is a quotation mark, a backslash or a control character. -/
  | plain {c : Char} {t : List Char} (hquote : c ≠ '"') (hslash : c ≠ '\\') (hctrl : 32 ≤ c.toNat)
      (ht : IsQuotable t) : IsQuotable (c :: t)
  /-- An escape of one letter. -/
  | letter {l c : Char} {t : List Char} (h : escaped? l = some c) (ht : IsQuotable t) :
      IsQuotable ('\\' :: l :: t)
  /-- An escape of four hexadecimal digits, also for a surrogate alone. -/
  | unit {x₁ x₂ x₃ x₄ : Char} {n : Nat} {t : List Char} (h : hexUnit? x₁ x₂ x₃ x₄ = some n)
      (ht : IsQuotable t) : IsQuotable ('\\' :: 'u' :: x₁ :: x₂ :: x₃ :: x₄ :: t)

/-- What a text of the format may be about. -/
inductive Piece where
  /-- A value. -/
  | value
  /-- The items of an array, of which there is one at least. -/
  | items
  /-- The members of an object, of which there is one at least. -/
  | members

/-- The texts of values, items and members. Blanks may stand around items, keys and values. -/
inductive IsPiece : Piece → List Char → Prop
  /-- One of the three words. -/
  | word {t : List Char} (h : t ∈ ["null".toList, "true".toList, "false".toList]) :
      IsPiece .value t
  /-- A number. -/
  | number {t : List Char} (h : IsNumber t) : IsPiece .value t
  /-- A text. -/
  | text {t : List Char} (h : IsQuotable t) : IsPiece .value ('"' :: (t ++ ['"']))
  /-- An array without items. -/
  | noItems {b : List Char} (hb : Blanks b) : IsPiece .value ('[' :: (b ++ [']']))
  /-- An array with items. -/
  | array {t : List Char} (h : IsPiece .items t) : IsPiece .value ('[' :: (t ++ [']']))
  /-- An object without members. -/
  | noMembers {b : List Char} (hb : Blanks b) : IsPiece .value ('{' :: (b ++ ['}']))
  /-- An object with members. -/
  | object {t : List Char} (h : IsPiece .members t) : IsPiece .value ('{' :: (t ++ ['}']))
  /-- The last item. -/
  | lastItem {b u b' : List Char} (hb : Blanks b) (hu : IsPiece .value u) (hb' : Blanks b') :
      IsPiece .items (b ++ (u ++ b'))
  /-- One more item in front. -/
  | item {b u b' t : List Char} (hb : Blanks b) (hu : IsPiece .value u) (hb' : Blanks b')
      (ht : IsPiece .items t) : IsPiece .items (b ++ (u ++ (b' ++ ',' :: t)))
  /-- The last member. -/
  | lastMember {b k b' c u c' : List Char} (hb : Blanks b) (hk : IsQuotable k) (hb' : Blanks b')
      (hc : Blanks c) (hu : IsPiece .value u) (hc' : Blanks c') :
      IsPiece .members (b ++ '"' :: (k ++ '"' :: (b' ++ ':' :: (c ++ (u ++ c')))))
  /-- One more member in front. -/
  | member {b k b' c u c' t : List Char} (hb : Blanks b) (hk : IsQuotable k) (hb' : Blanks b')
      (hc : Blanks c) (hu : IsPiece .value u) (hc' : Blanks c') (ht : IsPiece .members t) :
      IsPiece .members (b ++ '"' :: (k ++ '"' :: (b' ++ ':' :: (c ++ (u ++ (c' ++ ',' :: t))))))

/-- The texts of values. -/
abbrev IsValue (t : List Char) : Prop := IsPiece .value t

/-! ## Words, texts and numbers -/

/-- No number goes on here, so that a value may end. -/
def Ends (rest : List Char) : Prop :=
  ∀ c ∈ rest.head?, c.isDigit = false ∧ c ≠ '.' ∧ c ≠ 'e' ∧ c ≠ 'E'

/-- A value may end where nothing follows. -/
lemma ends_nil : Ends [] := by simp [Ends]

/-- A value may end before any of the other characters. -/
lemma ends_cons {c : Char} (hdigit : c.isDigit = false) (hpoint : c ≠ '.') (he : c ≠ 'e')
    (hE : c ≠ 'E') (t : List Char) : Ends (c :: t) := by
  rintro _ ⟨⟩
  exact ⟨hdigit, hpoint, he, hE⟩

/-- A value may end before a comma. -/
lemma ends_comma (t : List Char) : Ends (',' :: t) :=
  ends_cons rfl (by decide) (by decide) (by decide) t

/-- A value may end before a closing bracket. -/
lemma ends_bracket (t : List Char) : Ends (']' :: t) :=
  ends_cons rfl (by decide) (by decide) (by decide) t

/-- A value may end before a closing brace. -/
lemma ends_brace (t : List Char) : Ends ('}' :: t) :=
  ends_cons rfl (by decide) (by decide) (by decide) t

/-- A value may end before a comma and before the mark that closes what it stands in. -/
lemma ends_mark {mark closing : Char} {t : List Char} (hmark : mark = ',' ∨ mark = closing)
    (hclosing : Ends (closing :: t)) : Ends (mark :: t) := by
  rcases hmark with rfl | rfl
  · exact ends_comma t
  · exact hclosing

/-- A value may end before blanks. -/
lemma Blanks.ends_append {b rest : List Char} (hb : Blanks b) (hrest : Ends rest) :
    Ends (b ++ rest) := by
  cases b with
  | nil => exact hrest
  | cons c b =>
    have hc := hb c List.mem_cons_self
    simp only [isBlank, Bool.or_eq_true, beq_iff_eq] at hc
    obtain ((rfl | rfl) | rfl) | rfl := hc <;> exact ends_cons rfl (by decide) (by decide)
      (by decide) _

/-- What may stand between quotation marks is skipped up to the one behind it. -/
lemma IsQuotable.skipText_append {t : List Char} (h : IsQuotable t) (rest : List Char) :
    skipText (t ++ '"' :: rest) = some rest := by
  induction h with
  | nil => rfl
  | plain hquote hslash hctrl _ ih =>
    rw [List.cons_append, skipText]
    · simp [hslash, Nat.not_lt.mpr hctrl, ih]
    · exact hquote
    · exact fun _ _ _ _ _ h => absurd h hslash
    · exact fun _ _ h => absurd h hslash
  | @letter l c t h _ ih =>
    have hu : l ≠ 'u' := by
      rintro rfl
      cases h
    rw [List.cons_append, List.cons_append, skipText]
    · simp [h, ih]
    · exact fun _ _ _ _ _ h => absurd h hu
  | unit h _ ih =>
    simp only [List.cons_append]
    rw [skipText]
    simp [h, ih]

/-- Digits are skipped up to where there are no more. -/
lemma Digits.skipDigits_append {t rest : List Char} (h : Digits t)
    (hrest : ∀ c ∈ rest.head?, c.isDigit = false) : skipDigits (t ++ rest) = some rest := by
  obtain ⟨hne, hdigits⟩ := h
  cases t with
  | nil => exact absurd rfl hne
  | cons c t =>
    obtain ⟨hc, ht⟩ := List.forall_mem_cons.mp hdigits
    rw [List.cons_append, skipDigits, if_pos hc, List.dropWhile_append_of_pos ht]
    cases rest with
    | nil => rfl
    | cons c' rest => rw [List.dropWhile_cons_of_neg (by simp [hrest c' rfl])]

/-- A sign in front of a digit is skipped. -/
lemma OptionalSign.skipSign_append {signs sign : List Char} (h : OptionalSign signs sign) {c : Char}
    (hc : c ∉ signs) (t : List Char) : skipSign signs (sign ++ c :: t) = c :: t := by
  obtain rfl | ⟨s, hs, rfl⟩ := h
  · rw [List.nil_append, skipSign, if_neg (by simpa using hc)]
  · rw [List.singleton_append, skipSign, if_pos (by simpa using hs)]

/-- A digit is neither of the two signs. -/
lemma not_mem_signs {c : Char} (hc : c.isDigit = true) : c ∉ ['+', '-'] := by
  simp only [List.mem_cons, List.not_mem_nil, or_false, not_or]
  constructor <;> rintro rfl <;> cases hc

/-- An exponent is skipped up to where the number ends. -/
lemma IsExponent.skipExponent_append {w rest : List Char} (h : IsExponent w) (hrest : Ends rest) :
    skipExponent (w ++ rest) = some rest := by
  cases h with
  | none =>
    cases rest with
    | nil => rfl
    | cons c rest =>
      obtain ⟨-, -, he, hE⟩ := hrest c rfl
      simp [skipExponent, he, hE]
  | @digits c sign t hc hsign ht =>
    have hletter : (c == 'e' || c == 'E') = true := by simpa using hc
    have hdigits := ht.skipDigits_append fun c hc => (hrest c hc).1
    obtain ⟨d, t, rfl⟩ := List.exists_cons_of_ne_nil ht.1
    have hd := not_mem_signs (ht.2 d List.mem_cons_self)
    rw [List.cons_append, skipExponent, if_pos hletter, List.append_assoc, List.cons_append,
      hsign.skipSign_append hd]
    exact hdigits

/-- Neither a digit nor a point follows where an exponent may stand. -/
lemma IsExponent.head_append {w rest : List Char} (h : IsExponent w) (hrest : Ends rest) :
    ∀ c ∈ (w ++ rest).head?, c.isDigit = false ∧ c ≠ '.' := by
  cases h with
  | none => exact fun c hc => ⟨(hrest c hc).1, (hrest c hc).2.1⟩
  | digits hc =>
    rintro _ ⟨⟩
    rcases hc with rfl | rfl <;> exact ⟨rfl, by decide⟩

/-- A fraction is skipped up to the exponent. -/
lemma IsFraction.skipFraction_append {v rest : List Char} (h : IsFraction v)
    (hrest : ∀ c ∈ rest.head?, c.isDigit = false ∧ c ≠ '.') :
    skipFraction (v ++ rest) = some rest := by
  cases h with
  | none =>
    rw [List.nil_append, skipFraction]
    rintro t rfl
    exact (hrest '.' rfl).2 rfl
  | digits h => exact h.skipDigits_append fun c hc => (hrest c hc).1

/-- No digit follows where a fraction may stand. -/
lemma IsFraction.head_append {v rest : List Char} (h : IsFraction v)
    (hrest : ∀ c ∈ rest.head?, c.isDigit = false ∧ c ≠ '.') :
    ∀ c ∈ (v ++ rest).head?, c.isDigit = false := by
  cases h with
  | none => exact fun c hc => (hrest c hc).1
  | digits =>
    rintro _ ⟨⟩
    rfl

/-- An integral part is skipped up to the fraction. -/
lemma IsInteger.skipInteger_append {u rest : List Char} (h : IsInteger u)
    (hrest : ∀ c ∈ rest.head?, c.isDigit = false) : skipInteger (u ++ rest) = some rest := by
  cases h with
  | zero =>
    cases rest with
    | nil => rfl
    | cons c rest => simp [skipInteger, hrest c rfl]
  | digits h hzero =>
    rw [skipInteger]
    · exact h.skipDigits_append hrest
    · obtain ⟨c, t, rfl⟩ := List.exists_cons_of_ne_nil h.1
      rintro t' heq
      exact hzero (congrArg some (List.cons.inj heq).1)

/-- An integral part begins with a digit. -/
lemma IsInteger.exists_cons {u : List Char} (h : IsInteger u) :
    ∃ c t, u = c :: t ∧ c.isDigit = true := by
  cases h with
  | zero => exact ⟨'0', [], rfl, rfl⟩
  | digits h =>
    obtain ⟨c, t, rfl⟩ := List.exists_cons_of_ne_nil h.1
    exact ⟨c, t, rfl, h.2 c List.mem_cons_self⟩

/-- A number is skipped up to where it ends. -/
lemma IsNumber.skipNumber_append {t rest : List Char} (h : IsNumber t) (hrest : Ends rest) :
    skipNumber (t ++ rest) = some rest := by
  cases h with
  | @parts sign u v w hsign hu hv hw =>
    have hexponent := hw.head_append hrest
    have hinteger := hu.skipInteger_append (hv.head_append hexponent)
    obtain ⟨c, t, rfl, hc⟩ := hu.exists_cons
    have hminus : c ∉ ['-'] := fun h => not_mem_signs hc (List.mem_cons_of_mem _ h)
    have hsplit : sign ++ (c :: t ++ (v ++ w)) ++ rest =
        sign ++ c :: (t ++ (v ++ (w ++ rest))) := by simp
    rw [hsplit, skipNumber, hsign.skipSign_append hminus, ← List.cons_append, hinteger]
    simp only [Option.bind_eq_bind, Option.bind_some, hv.skipFraction_append hexponent,
      hw.skipExponent_append hrest]

/-! ## Values -/

/-- A character with which a number can begin. -/
def BeginsNumber (c : Char) : Prop := c.isDigit = true ∨ c = '-'

/-- A number begins with none of the other characters. -/
lemma BeginsNumber.ne {c : Char} (h : BeginsNumber c) {d : Char} (hdigit : d.isDigit = false)
    (hsign : d ≠ '-') : c ≠ d := by
  rintro rfl
  rcases h with h | h
  · rw [hdigit] at h
    cases h
  · exact hsign h

/-- A number begins with no blank. -/
lemma BeginsNumber.isBlank {c : Char} (h : BeginsNumber c) : isBlank c = false := by
  simp only [Json.isBlank, Bool.or_eq_false_iff, beq_eq_false_iff_ne]
  exact ⟨⟨⟨h.ne rfl (by decide), h.ne rfl (by decide)⟩, h.ne rfl (by decide)⟩,
    h.ne rfl (by decide)⟩

/-- The text of a number begins like one. -/
lemma IsNumber.exists_cons {t : List Char} (h : IsNumber t) :
    ∃ c v, t = c :: v ∧ BeginsNumber c := by
  obtain ⟨hsign, hu, -, -⟩ := h
  obtain ⟨c, v, rfl, hc⟩ := hu.exists_cons
  obtain rfl | ⟨s, hs, rfl⟩ := hsign
  · exact ⟨c, _, rfl, .inl hc⟩
  · exact ⟨s, _, rfl, .inr (List.mem_singleton.mp hs)⟩

/-- What begins like a number is skipped as one. -/
lemma skipValue_number (fuel : Nat) {b : List Char} (hb : Blanks b) {c : Char}
    (hc : BeginsNumber c) (t : List Char) :
    skipValue (fuel + 1) (b ++ c :: t) = skipNumber (c :: t) := by
  rw [skipValue, skipBlanks_append_cons hb hc.isBlank]
  split
  case h_1 h => cases h
  case h_8 => rfl
  all_goals
    next h =>
      obtain ⟨rfl, -⟩ := List.cons.inj h
      exact absurd rfl (hc.ne rfl (by decide))

/-- Behind blanks the text of a piece begins with a character that closes nothing. -/
lemma IsPiece.exists_head {piece : Piece} {t : List Char} (h : IsPiece piece t) :
    ∃ b c v, Blanks b ∧ t = b ++ c :: v ∧ isBlank c = false ∧ c ≠ ']' ∧ c ≠ '}' := by
  induction h with
  | word h =>
    simp only [List.mem_cons, List.not_mem_nil, or_false] at h
    obtain rfl | rfl | rfl := h <;>
      exact ⟨[], _, _, blanks_nil, rfl, rfl, by decide, by decide⟩
  | number h =>
    obtain ⟨c, v, rfl, hc⟩ := h.exists_cons
    exact ⟨[], c, v, blanks_nil, rfl, hc.isBlank, hc.ne rfl (by decide), hc.ne rfl (by decide)⟩
  | text | noItems | array | noMembers | object =>
    exact ⟨[], _, _, blanks_nil, rfl, rfl, by decide, by decide⟩
  | lastItem hb _ _ ih | item hb _ _ _ ih =>
    obtain ⟨b', c, v, hb', rfl, hc⟩ := ih
    exact ⟨_, c, _, hb.append hb', by simp only [List.append_assoc, List.cons_append]; rfl, hc⟩
  | lastMember hb | member hb => exact ⟨_, _, _, hb, rfl, rfl, by decide, by decide⟩

/-- The text of a piece is skipped, whatever follows it. Behind items and members the closing mark
is skipped as well. -/
def IsSkipped (t : List Char) : Piece → Prop
  | .value => ∀ ⦃fuel : Nat⦄ ⦃b rest : List Char⦄, Blanks b → Ends rest → 2 * t.length ≤ fuel →
      skipValue fuel (b ++ (t ++ rest)) = some rest
  | .items => ∀ ⦃fuel : Nat⦄ ⦃rest : List Char⦄, 2 * t.length < fuel →
      skipItems fuel (t ++ ']' :: rest) = some rest
  | .members => ∀ ⦃fuel : Nat⦄ ⦃rest : List Char⦄, 2 * t.length < fuel →
      skipMembers fuel (t ++ '}' :: rest) = some rest

/-- The text of a value is skipped if one step is enough for that. -/
lemma isSkipped_value {t : List Char} (hne : t ≠ [])
    (h : ∀ ⦃fuel : Nat⦄ ⦃b rest : List Char⦄, Blanks b → Ends rest → 2 * t.length ≤ fuel + 1 →
      skipValue (fuel + 1) (b ++ (t ++ rest)) = some rest) : IsSkipped t .value := by
  intro fuel b rest hb hrest hfuel
  have hpos := List.length_pos_iff.mpr hne
  obtain ⟨fuel, rfl⟩ := Nat.exists_eq_succ_of_ne_zero (by omega : fuel ≠ 0)
  exact h hb hrest hfuel

/-- A word is skipped. -/
lemma isSkipped_word {t : List Char} (h : t ∈ ["null".toList, "true".toList, "false".toList]) :
    IsSkipped t .value := by
  simp only [List.mem_cons, List.not_mem_nil, or_false] at h
  refine isSkipped_value (by rintro rfl; revert h; decide) fun fuel b rest hb _ _ => ?_
  rw [skipValue]
  obtain rfl | rfl | rfl := h
  · rw [show "null".toList ++ rest = 'n' :: (['u', 'l', 'l'] ++ rest) from rfl,
      skipBlanks_append_cons hb rfl]
    rfl
  · rw [show "true".toList ++ rest = 't' :: (['r', 'u', 'e'] ++ rest) from rfl,
      skipBlanks_append_cons hb rfl]
    rfl
  · rw [show "false".toList ++ rest = 'f' :: (['a', 'l', 's', 'e'] ++ rest) from rfl,
      skipBlanks_append_cons hb rfl]
    rfl

/-- A number is skipped. -/
lemma isSkipped_number {t : List Char} (h : IsNumber t) : IsSkipped t .value := by
  obtain ⟨c, v, rfl, hc⟩ := h.exists_cons
  refine isSkipped_value (List.cons_ne_nil c v) fun fuel b rest hb hrest _ => ?_
  rw [List.cons_append, skipValue_number fuel hb hc, ← List.cons_append]
  exact h.skipNumber_append hrest

/-- A text in quotation marks is skipped. -/
lemma isSkipped_text {t : List Char} (h : IsQuotable t) :
    IsSkipped ('"' :: (t ++ ['"'])) .value := by
  refine isSkipped_value (List.cons_ne_nil _ _) fun fuel b rest hb _ _ => ?_
  rw [List.cons_append, skipValue, skipBlanks_append_cons hb rfl]
  simpa using h.skipText_append rest

/-- An array without items is skipped. -/
lemma isSkipped_noItems {b : List Char} (hb : Blanks b) :
    IsSkipped ('[' :: (b ++ [']'])) .value := by
  refine isSkipped_value (List.cons_ne_nil _ _) fun fuel b' rest hb' _ _ => ?_
  rw [List.cons_append, skipValue, skipBlanks_append_cons hb' rfl]
  simp [skipBlanks_append_cons hb (c := ']') rfl]

/-- An object without members is skipped. -/
lemma isSkipped_noMembers {b : List Char} (hb : Blanks b) :
    IsSkipped ('{' :: (b ++ ['}'])) .value := by
  refine isSkipped_value (List.cons_ne_nil _ _) fun fuel b' rest hb' _ _ => ?_
  rw [List.cons_append, skipValue, skipBlanks_append_cons hb' rfl]
  simp [skipBlanks_append_cons hb (c := '}') rfl]

/-- An array is skipped if its items are. -/
lemma isSkipped_array {t : List Char} (h : IsPiece .items t) (ht : IsSkipped t .items) :
    IsSkipped ('[' :: (t ++ [']'])) .value := by
  refine isSkipped_value (List.cons_ne_nil _ _) fun fuel b rest hb _ hfuel => ?_
  rw [List.length_cons, List.length_append, List.length_singleton] at hfuel
  have hitems : skipItems fuel (t ++ ']' :: rest) = some rest := ht (by omega)
  obtain ⟨b', c, v, hb', rfl, hblank, hbracket, -⟩ := h.exists_head
  rw [List.cons_append, skipValue, skipBlanks_append_cons hb rfl]
  simp only [List.append_assoc, List.cons_append, List.nil_append] at hitems ⊢
  simp [skipBlanks_append_cons hb' hblank, hbracket, hitems]

/-- An object is skipped if its members are. -/
lemma isSkipped_object {t : List Char} (h : IsPiece .members t) (ht : IsSkipped t .members) :
    IsSkipped ('{' :: (t ++ ['}'])) .value := by
  refine isSkipped_value (List.cons_ne_nil _ _) fun fuel b rest hb _ hfuel => ?_
  rw [List.length_cons, List.length_append, List.length_singleton] at hfuel
  have hmembers : skipMembers fuel (t ++ '}' :: rest) = some rest := ht (by omega)
  obtain ⟨b', c, v, hb', rfl, hblank, -, hbrace⟩ := h.exists_head
  rw [List.cons_append, skipValue, skipBlanks_append_cons hb rfl]
  simp only [List.append_assoc, List.cons_append, List.nil_append] at hmembers ⊢
  simp [skipBlanks_append_cons hb' hblank, hbrace, hmembers]

/-- An item is skipped, and then what stands behind the mark that follows. -/
lemma skipItems_item {fuel : Nat} {b u b' : List Char} (hb : Blanks b) (hu : IsSkipped u .value)
    (hb' : Blanks b') (hfuel : 2 * u.length ≤ fuel) {mark : Char} (hmark : mark = ',' ∨ mark = ']')
    (rest : List Char) :
    skipItems (fuel + 1) (b ++ (u ++ (b' ++ mark :: rest))) =
      if mark = ',' then skipItems fuel rest else some rest := by
  have hends : Ends (b' ++ mark :: rest) := hb'.ends_append (ends_mark hmark (ends_bracket rest))
  rw [skipItems, hu hb hends hfuel]
  rcases hmark with rfl | rfl
  · simp [skipBlanks_append_cons hb' (c := ',') rfl]
  · simp [skipBlanks_append_cons hb' (c := ']') rfl]

/-- A member is skipped, and then what stands behind the mark that follows. -/
lemma skipMembers_member {fuel : Nat} {b k b' c u c' : List Char} (hb : Blanks b)
    (hk : IsQuotable k) (hb' : Blanks b') (hc : Blanks c) (hu : IsSkipped u .value)
    (hc' : Blanks c') (hfuel : 2 * u.length ≤ fuel) {mark : Char} (hmark : mark = ',' ∨ mark = '}')
    (rest : List Char) :
    skipMembers (fuel + 1)
        (b ++ '"' :: (k ++ '"' :: (b' ++ ':' :: (c ++ (u ++ (c' ++ mark :: rest)))))) =
      if mark = ',' then skipMembers fuel rest else some rest := by
  have hends : Ends (c' ++ mark :: rest) := hc'.ends_append (ends_mark hmark (ends_brace rest))
  rw [skipMembers, skipBlanks_append_cons hb rfl]
  simp only [hk.skipText_append, Option.bind_eq_bind, Option.bind_some,
    skipBlanks_append_cons hb' (c := ':') rfl, hu hc hends hfuel]
  rcases hmark with rfl | rfl
  · simp [skipBlanks_append_cons hc' (c := ',') rfl]
  · simp [skipBlanks_append_cons hc' (c := '}') rfl]

/-- **The texts of values are skipped.** Whatever number, text, array or object stands there, be it
too large, too deep or no text of characters, it is skipped up to what follows it.

**Proof sketch.** Induction on the text as the format has it. An item or a member is skipped up to
the mark behind it, at which no number goes on. -/
theorem IsPiece.isSkipped {piece : Piece} {t : List Char} (h : IsPiece piece t) :
    IsSkipped t piece := by
  induction h with
  | word h => exact isSkipped_word h
  | number h => exact isSkipped_number h
  | text h => exact isSkipped_text h
  | noItems hb => exact isSkipped_noItems hb
  | array h ih => exact isSkipped_array h ih
  | noMembers hb => exact isSkipped_noMembers hb
  | object h ih => exact isSkipped_object h ih
  | lastItem hb _ hb' ih =>
    intro fuel rest hfuel
    obtain ⟨fuel, rfl⟩ := Nat.exists_eq_succ_of_ne_zero (Nat.ne_zero_of_lt hfuel)
    simp only [List.length_append] at hfuel
    simpa using skipItems_item hb ih hb' (by omega) (.inr rfl) rest
  | item hb _ hb' _ ih ihrest =>
    intro fuel rest hfuel
    obtain ⟨fuel, rfl⟩ := Nat.exists_eq_succ_of_ne_zero (Nat.ne_zero_of_lt hfuel)
    simp only [List.length_append, List.length_cons] at hfuel
    have hitem := skipItems_item hb ih hb' (by omega : _ ≤ fuel) (.inl rfl)
    simpa [hitem] using ihrest (by omega)
  | lastMember hb hk hb' hc _ hc' ih =>
    intro fuel rest hfuel
    obtain ⟨fuel, rfl⟩ := Nat.exists_eq_succ_of_ne_zero (Nat.ne_zero_of_lt hfuel)
    simp only [List.length_append, List.length_cons] at hfuel
    simpa using skipMembers_member hb hk hb' hc ih hc' (by omega) (.inr rfl) rest
  | member hb hk hb' hc _ hc' _ ih ihrest =>
    intro fuel rest hfuel
    obtain ⟨fuel, rfl⟩ := Nat.exists_eq_succ_of_ne_zero (Nat.ne_zero_of_lt hfuel)
    simp only [List.length_append, List.length_cons] at hfuel
    have hmember := skipMembers_member hb hk hb' hc ih hc' (by omega : _ ≤ fuel) (.inl rfl)
    simpa [hmember] using ihrest (by omega)

end HttpAudit.Json
