import HttpAudit.Proofs.Rule.Literal

set_option relaxedAutoImplicit false
set_option autoImplicit false

/-!
# How literals are written

Any text can be written between any separator, with a backslash before each separator within it.
This is the only way to write it that is read: what can be told apart in a literal can be told apart
in its meaning.

## Main definitions

* `HttpAudit.Literal.escape` — a text with a backslash before each separator.
* `HttpAudit.Literal.encode` — a text as a literal.
* `HttpAudit.Literal.HasStray` — a literal with a separator that is not escaped.

## Main results

* `HttpAudit.Literal.unescape_escape`, `HttpAudit.Literal.escape_unescape` — escaping and reading
  are inverse to each other.
* `HttpAudit.Literal.decode_iff_encode` — what each text is read as, and the error if it is not.
-/

namespace HttpAudit.Literal

/-- The text with a backslash before each separator. -/
def escape (d : Char) (s : List Char) : List Char :=
  s.flatMap fun c => if c = d then ['\\', c] else [c]

/-- The text as a literal: between two separators, and with those within it escaped. -/
def encode (d : Char) (s : List Char) : List Char := d :: (escape d s ++ [d])

/-- The text stands between two separators, and within it there is the same one without a backslash
directly before it. -/
def HasStray (d : Char) (e : List Char) : Prop :=
  ∃ u v, e = d :: (u ++ d :: v ++ [d]) ∧ u.getLast? ≠ some '\\'

variable {d : Char}

/-- A backslash is no separator. -/
lemma ne_backslash_of_isSeparator (hd : isSeparator d = true) : d ≠ '\\' := by
  rintro rfl
  revert hd
  decide

/-! ## Escaping and reading -/

/-- The separator itself is escaped. -/
lemma escape_cons_self (d : Char) (s : List Char) : escape d (d :: s) = '\\' :: d :: escape d s := by
  simp [escape]

/-- Any other character stands for itself. -/
lemma escape_cons_of_ne {c : Char} (hc : c ≠ d) (s : List Char) :
    escape d (c :: s) = c :: escape d s := by
  simp [escape, hc]

/-- An escaped text does not start with a separator. -/
lemma head?_escape_ne (hd : d ≠ '\\') (s : List Char) : (escape d s).head? ≠ some d := by
  cases s with
  | nil => simp [escape]
  | cons c s =>
    by_cases hc : c = d
    · subst hc
      simpa [escape_cons_self] using hd.symm
    · simpa [escape_cons_of_ne hc] using hc

/-- A character that does not escape a separator is read as itself. -/
lemma unescape_cons {c : Char} {s : List Char} (h : c = '\\' → s.head? ≠ some d) :
    unescape d (c :: s) = c :: unescape d s := by
  cases s with
  | nil => rfl
  | cons e s =>
    have hesc : ¬((c == '\\' && e == d) = true) := by
      simpa using fun hc => by simpa using h hc
    rw [unescape, if_neg hesc]

/-- There is a backslash before each separator of an escaped text. -/
lemma hasUnescaped_escape (hd : d ≠ '\\') (before : Option Char) (s : List Char) :
    hasUnescaped d before (escape d s) = false := by
  induction s generalizing before with
  | nil => rfl
  | cons c s ih =>
    by_cases hc : c = d
    · subst hc
      simp [escape_cons_self, hasUnescaped, ih, hd.symm]
    · simp [escape_cons_of_ne hc, hasUnescaped, ih, hc]

/-- An escaped text is read as the text. -/
lemma unescape_escape (hd : d ≠ '\\') (s : List Char) : unescape d (escape d s) = s := by
  induction s with
  | nil => rfl
  | cons c s ih =>
    by_cases hc : c = d
    · subst hc
      simp [escape_cons_self, unescape, ih]
    · rw [escape_cons_of_ne hc, unescape_cons fun _ => head?_escape_ne hd s, ih]

/-- A text in which each separator is escaped is what its meaning is escaped to.

**Proof sketch.** Induction along `unescape`. There is no backslash before the text, which would
escape a separator at its start. This stays so behind a character that is read as itself: if that
is a backslash, then no separator follows. -/
lemma escape_unescape (hd : d ≠ '\\') {s : List Char} {before : Option Char}
    (hbefore : before ≠ some '\\') (h : hasUnescaped d before s = false) :
    escape d (unescape d s) = s := by
  fun_induction unescape d s generalizing before with
  | case1 => rfl
  | case2 c =>
    have hc : c ≠ d := by simpa [hasUnescaped, hbefore] using h
    rw [escape_cons_of_ne hc]
    rfl
  | case3 c e rest hesc ih =>
    obtain ⟨rfl, rfl⟩ : c = '\\' ∧ e = d := by simpa using hesc
    have hrest : hasUnescaped e (some e) rest = false := by
      simpa [hasUnescaped, hd.symm] using h
    rw [escape_cons_self, ih (by simpa using hd) hrest]
  | case4 c e rest hesc ih =>
    obtain ⟨hc, hrest⟩ : c ≠ d ∧ hasUnescaped d (some c) (e :: rest) = false := by
      rw [hasUnescaped, Bool.or_eq_false_iff] at h
      exact ⟨by simpa [hbefore] using h.1, h.2⟩
    have hfree : hasUnescaped d none (e :: rest) = false := by
      by_cases hslash : c = '\\'
      · have he : e ≠ d := by simpa [hslash] using hesc
        simpa [hasUnescaped, he] using hrest
      · simpa [hasUnescaped, hslash] using hrest
    rw [escape_cons_of_ne hc, ih (Option.some_ne_none _).symm hfree]

/-! ## Literals that are read, and errors -/

/-- A literal is read as a text if it is the text, written with some separator. -/
lemma decode_eq_ok_iff_exists_encode {line e s : List Char} :
    decode line e = .ok s ↔ ∃ d, isSeparator d = true ∧ e = encode d s := by
  rw [decode_eq_ok_iff]
  constructor
  · rintro ⟨d, inner, hd, rfl, hfree, rfl⟩
    refine ⟨d, hd, ?_⟩
    rw [encode, escape_unescape (ne_backslash_of_isSeparator hd) (Option.some_ne_none _).symm hfree]
  · rintro ⟨d, hd, rfl⟩
    have hslash := ne_backslash_of_isSeparator hd
    exact ⟨d, escape d s, hd, rfl, hasUnescaped_escape hslash none s, unescape_escape hslash s⟩

/-- Where a separator in a text is not escaped, it has no backslash before it. -/
lemma hasUnescaped_eq_true_iff {inner : List Char} :
    hasUnescaped d none inner = true ↔ ∃ u v, inner = u ++ d :: v ∧ u.getLast? ≠ some '\\' := by
  rw [← Bool.not_eq_false, hasUnescaped_eq_false_iff]
  simp

/-- A literal with a separator that is not escaped is refused for that. -/
lemma HasStray.decode_eq {e : List Char} (h : HasStray d e) (hd : isSeparator d = true)
    (line : List Char) : decode line e = .error (.unescapedSeparator d (.ofList line)) := by
  obtain ⟨u, v, rfl, hslash⟩ := h
  rw [decode_between line hd, if_pos (hasUnescaped_eq_true_iff.mpr ⟨u, v, rfl, hslash⟩)]

/-- A text between two separators that is not read has a separator that is not escaped. -/
lemma hasStray_of_decode_eq_error {line inner : List Char} {error : RuleError}
    (hd : isSeparator d = true) (h : decode line (d :: (inner ++ [d])) = .error error) :
    HasStray d (d :: (inner ++ [d])) := by
  rw [decode_between line hd] at h
  split_ifs at h with hstray
  obtain ⟨u, v, rfl, hslash⟩ := hasUnescaped_eq_true_iff.mp hstray
  exact ⟨u, v, rfl, hslash⟩

/-- **Literals are read as what they are written for.** A text is read as `s` if and only if it is
`s` written with some separator: between two of them, and with a backslash before each within. Any
other text is refused, for a separator without a backslash before it if it stands between two
separators and has one more like them, and else because it does not stand between two separators.

**Proof sketch.** Escaping and reading are inverse to each other (`unescape_escape`,
`escape_unescape`). What stands between two separators can only be refused for another one
(`hasStray_of_decode_eq_error`). -/
theorem decode_iff_encode (line e : List Char) :
    (∀ s, decode line e = .ok s ↔ ∃ d, isSeparator d = true ∧ e = encode d s) ∧
      ∀ error, decode line e = .error error ↔
        (∃ d, isSeparator d = true ∧ HasStray d e ∧ error = .unescapedSeparator d (.ofList line)) ∨
        (¬∃ d s, isSeparator d = true ∧ (e = encode d s ∨ HasStray d e)) ∧
          error = .invalidExpression (.ofList e) (.ofList line) := by
  refine ⟨fun s => decode_eq_ok_iff_exists_encode, fun error => ⟨fun h => ?_, ?_⟩⟩
  · by_cases hbetween : ∃ d inner, isSeparator d = true ∧ e = d :: (inner ++ [d])
    · obtain ⟨d, inner, hd, rfl⟩ := hbetween
      have hstray := hasStray_of_decode_eq_error hd h
      rw [hstray.decode_eq hd] at h
      exact .inl ⟨d, hd, hstray, (Except.error.inj h).symm⟩
    · have hnot : ∀ d inner, isSeparator d = true → e ≠ d :: (inner ++ [d]) :=
        fun d inner hd he => hbetween ⟨d, inner, hd, he⟩
      rw [decode_of_not_between line hnot] at h
      refine .inr ⟨?_, (Except.error.inj h).symm⟩
      rintro ⟨d, s, hd, he | ⟨u, v, he, -⟩⟩
      · exact hnot d _ hd he
      · exact hnot d _ hd he
  · rintro (⟨d, hd, hstray, rfl⟩ | ⟨hnot, rfl⟩)
    · exact hstray.decode_eq hd line
    · refine decode_of_not_between line fun d inner hd he => ?_
      subst he
      cases hread : decode line (d :: (inner ++ [d])) with
      | ok s =>
        obtain ⟨d', hd', he'⟩ := decode_eq_ok_iff_exists_encode.mp hread
        exact hnot ⟨d', s, hd', .inl he'⟩
      | error error => exact hnot ⟨d, [], hd, .inr (hasStray_of_decode_eq_error hd hread)⟩

/-- A backslash before a separator and one at the end, between other separators. -/
example : encode '/' "\\/~\\".toList = "/\\\\/~\\/".toList ∧
    decode [] "/\\\\/~\\/".toList = .ok "\\/~\\".toList := by
  decide +kernel

end HttpAudit.Literal
