import HttpAudit.Json.Parser
import Mathlib.Tactic.Common

set_option relaxedAutoImplicit false
set_option autoImplicit false

/-!
# Spellings of texts

A text may be spelled in many ways between its quotation marks: a character as it is, by a letter
behind a backslash, by the four hexadecimal digits of its number, or by those of two surrogates.
These are the ways in which a text is read. One of them is compact, and it is the printed one.

## Main definitions

* `HttpAudit.Json.SpellsChar`, `HttpAudit.Json.SpellsText` — the spellings of a character and of a
  text.
* `HttpAudit.Json.isCompactFrom` — there are no blanks between texts, and no escapes that are longer
  than they need be.

## Main results

* `HttpAudit.Json.readString_eq_some_iff` — a text is read from its spellings, and from nothing
  else.
* `HttpAudit.Json.SpellsText.length_le` — no spelling is shorter than the printed one.
* `HttpAudit.Json.SpellsText.eq_of_isCompactFrom` — no other spelling is compact.

## Design

The spellings are those of the standard, and say nothing of how they are read. That a text is
compact can be told from its characters alone, without knowing what it means.
-/

namespace HttpAudit.Json

/-! ## Spellings -/

/-- The ways to spell a character within quotation marks. -/
inductive SpellsChar : Char → List Char → Prop
  /-- As it is, unless it is a quotation mark, a backslash or a control character. -/
  | plain {c : Char} (hquote : c ≠ '"') (hslash : c ≠ '\\') (hctrl : 32 ≤ c.toNat) :
      SpellsChar c [c]
  /-- By a letter behind a backslash. -/
  | letter {c l : Char} (h : escaped? l = some c) : SpellsChar c ['\\', l]
  /-- By its number, if that has four hexadecimal digits. -/
  | unit {c x₁ x₂ x₃ x₄ : Char} (h : hexUnit? x₁ x₂ x₃ x₄ = some c.toNat) :
      SpellsChar c ['\\', 'u', x₁, x₂, x₃, x₄]
  /-- By two surrogates, which carry ten bits each of a number that is larger than that. -/
  | pair {c x₁ x₂ x₃ x₄ y₁ y₂ y₃ y₄ : Char} {high low : Nat}
      (hhigh : hexUnit? x₁ x₂ x₃ x₄ = some (0xD800 + high))
      (hlow : hexUnit? y₁ y₂ y₃ y₄ = some (0xDC00 + low))
      (hhighBits : high < 0x400) (hlowBits : low < 0x400)
      (h : c.toNat = 0x10000 + 0x400 * high + low) :
      SpellsChar c ['\\', 'u', x₁, x₂, x₃, x₄, '\\', 'u', y₁, y₂, y₃, y₄]

/-- The ways to spell a text within quotation marks: its characters are spelled one after the
other. -/
inductive SpellsText : List Char → List Char → Prop
  /-- There is nothing to spell. -/
  | nil : SpellsText [] []
  /-- One more character in front. -/
  | cons {c : Char} {s u t : List Char} (hc : SpellsChar c u) (hs : SpellsText s t) :
      SpellsText (c :: s) (u ++ t)

/-- A hexadecimal digit is less than sixteen. -/
lemma hexValue?_lt {c : Char} {n : Nat} (h : hexValue? c = some n) : n < 16 := by
  have h0 : ('0' : Char).toNat = 48 := rfl
  have h9 : ('9' : Char).toNat = 57 := rfl
  have ha : ('a' : Char).toNat = 97 := rfl
  have hf : ('f' : Char).toNat = 102 := rfl
  have hA : ('A' : Char).toNat = 65 := rfl
  have hF : ('F' : Char).toNat = 70 := rfl
  unfold hexValue? at h
  simp only [Bool.and_eq_true, decide_eq_true_eq, Char.le_def, UInt32.le_iff_toNat_le,
    Char.toNat_val] at h
  split_ifs at h with hdigit hlower hupper
  all_goals
    have := Option.some.inj h
    omega

/-- Four hexadecimal digits are sixteen bits. -/
lemma hexUnit?_lt {x₁ x₂ x₃ x₄ : Char} {n : Nat} (h : hexUnit? x₁ x₂ x₃ x₄ = some n) :
    n < 0x10000 := by
  obtain ⟨n₁, h₁, n₂, h₂, n₃, h₃, n₄, h₄, rfl⟩ := by
    simpa only [hexUnit?, Option.bind_eq_bind, Option.bind_eq_some_iff, Option.some.injEq] using h
  have := hexValue?_lt h₁
  have := hexValue?_lt h₂
  have := hexValue?_lt h₃
  have := hexValue?_lt h₄
  omega

/-- A character has the number that it is made from. -/
lemma toNat_ofNat_of_isValidChar {n : Nat} (h : n.isValidChar) : (Char.ofNat n).toNat = n := by
  rw [Char.ofNat, dif_pos h]
  rfl

/-- Four hexadecimal digits that are no surrogate are the number of a character. -/
lemma toNat_ofNat_of_hexUnit? {x₁ x₂ x₃ x₄ : Char} {n : Nat}
    (h : hexUnit? x₁ x₂ x₃ x₄ = some n) (hlow : isLowSurrogate n = false)
    (hhigh : isHighSurrogate n = false) : (Char.ofNat n).toNat = n := by
  have hlt := hexUnit?_lt h
  simp only [isLowSurrogate, isHighSurrogate, Bool.and_eq_false_iff, decide_eq_false_iff_not]
    at hlow hhigh
  exact toNat_ofNat_of_isValidChar (by simp only [Nat.isValidChar]; omega)

/-- Two surrogates are the number of a character. -/
lemma toNat_ofSurrogates {high low : Nat} (hhigh : high < 0x400) (hlow : low < 0x400) :
    (ofSurrogates (0xD800 + high) (0xDC00 + low)).toNat = 0x10000 + 0x400 * high + low := by
  rw [ofSurrogates, toNat_ofNat_of_isValidChar (by simp only [Nat.isValidChar]; omega)]
  omega

/-- The number of a character is no surrogate. -/
lemma not_isSurrogate_toNat (c : Char) :
    isLowSurrogate c.toNat = false ∧ isHighSurrogate c.toNat = false := by
  have hvalid : c.toNat.isValidChar := c.valid
  simp only [Nat.isValidChar] at hvalid
  simp only [isLowSurrogate, isHighSurrogate, Bool.and_eq_false_iff, decide_eq_false_iff_not]
  omega

/-! ## Reading a spelling -/

/-- Before an escape of four digits that denotes no surrogate, its character is read. -/
lemma readString_unit {a b c d : Char} {n : Nat} {t : List Char} (hn : hexUnit? a b c d = some n)
    (hlow : isLowSurrogate n = false) (hhigh : isHighSurrogate n = false) :
    readString ('\\' :: 'u' :: a :: b :: c :: d :: t) =
      readString.prepend (Char.ofNat n) (readString t) := by
  rw [readString.eq_def]
  split
  case h_1 h => cases h
  case h_2 h => cases h
  case h_3 h =>
    cases h
    simp [hn, hlow, hhigh]
  case h_4 h =>
    cases h
    simp [hn, hlow, hhigh]
  case h_5 hne h =>
    cases h
    exact absurd rfl (hne _ _ _ _ _ rfl)
  case h_6 hne h =>
    cases h
    exact absurd rfl (hne _ _ rfl)

/-- A letter behind a backslash is read as the character it stands for. -/
lemma readString_letter {letter c : Char} {t : List Char} (h : escaped? letter = some c) :
    readString ('\\' :: letter :: t) = readString.prepend c (readString t) := by
  have hu : letter ≠ 'u' := by
    rintro rfl
    cases h
  rw [readString.eq_def]
  split
  case h_1 h' => cases h'
  case h_2 h' => cases h'
  case h_3 h' =>
    cases h'
    exact absurd rfl hu
  case h_4 h' =>
    cases h'
    exact absurd rfl hu
  case h_5 h' =>
    cases h'
    rw [h]
  case h_6 hne h' =>
    cases h'
    exact absurd rfl (hne _ _ rfl)

/-- A character that needs no escape is read as it is. -/
lemma readString_plain {c : Char} {t : List Char} (hquote : c ≠ '"') (hslash : c ≠ '\\')
    (hctrl : ¬c.toNat < 32) : readString (c :: t) = readString.prepend c (readString t) := by
  rw [readString.eq_def]
  split
  case h_1 h => cases h
  case h_2 h =>
    cases h
    exact absurd rfl hquote
  case h_3 h | h_4 h | h_5 h =>
    cases h
    exact absurd rfl hslash
  case h_6 h =>
    cases h
    simp [hslash, hctrl]

/-- A text with another character in front is read if the text is. -/
lemma prepend_eq_some_iff {c : Char} {r : Option (List Char × List Char)} {s rest : List Char} :
    readString.prepend c r = some (s, rest) ↔ ∃ s', r = some (s', rest) ∧ c :: s' = s := by
  simp [readString.prepend]

/-- Two surrogates are read as the character they stand for. -/
lemma readString_pair {x₁ x₂ x₃ x₄ y₁ y₂ y₃ y₄ : Char} {high low : Nat} {t : List Char}
    (hhigh : hexUnit? x₁ x₂ x₃ x₄ = some (0xD800 + high))
    (hlow : hexUnit? y₁ y₂ y₃ y₄ = some (0xDC00 + low))
    (hhighBits : high < 0x400) (hlowBits : low < 0x400) :
    readString ('\\' :: 'u' :: x₁ :: x₂ :: x₃ :: x₄ :: '\\' :: 'u' :: y₁ :: y₂ :: y₃ :: y₄ :: t) =
      readString.prepend (ofSurrogates (0xD800 + high) (0xDC00 + low)) (readString t) := by
  have hfirst :
      isLowSurrogate (0xD800 + high) = false ∧ isHighSurrogate (0xD800 + high) = true := by
    simp only [isLowSurrogate, isHighSurrogate, Bool.and_eq_false_iff, decide_eq_false_iff_not,
      Bool.and_eq_true, decide_eq_true_eq]
    omega
  have hsecond : isLowSurrogate (0xDC00 + low) = true := by
    simp only [isLowSurrogate, Bool.and_eq_true, decide_eq_true_eq]
    omega
  rw [readString]
  simp [hhigh, hlow, hfirst, hsecond]

/-- A spelling of a character is read as the character. -/
lemma SpellsChar.readString_append {c : Char} {u : List Char} (h : SpellsChar c u) (t : List Char) :
    readString (u ++ t) = readString.prepend c (readString t) := by
  cases h with
  | plain hquote hslash hctrl => exact readString_plain hquote hslash (by omega)
  | letter h => exact readString_letter h
  | unit h =>
    obtain ⟨hlow, hhigh⟩ := not_isSurrogate_toNat c
    have hread := readString_unit (t := t) h hlow hhigh
    rwa [Char.ofNat_toNat] at hread
  | pair hhigh hlow hhighBits hlowBits h =>
    have hread := readString_pair (t := t) hhigh hlow hhighBits hlowBits
    rwa [Char.toNat_inj.mp ((toNat_ofSurrogates hhighBits hlowBits).trans h.symm)] at hread

/-- A spelling of a text is read as the text. -/
lemma SpellsText.readString_append {s u : List Char} (h : SpellsText s u) (rest : List Char) :
    readString (u ++ '"' :: rest) = some (s, rest) := by
  induction h with
  | nil => rfl
  | cons hc _ ih =>
    rw [List.append_assoc, hc.readString_append, ih]
    rfl

/-- What is read with a spelling in front is a spelling, if what is read without is. -/
lemma exists_spellsText_of_prepend {c : Char} {v s rest t : List Char}
    {r : Option (List Char × List Char)} (hc : SpellsChar c v)
    (hread : readString.prepend c r = some (s, rest))
    (ih : ∀ {s rest}, r = some (s, rest) → ∃ u, SpellsText s u ∧ t = u ++ '"' :: rest) :
    ∃ u, SpellsText s u ∧ v ++ t = u ++ '"' :: rest := by
  obtain ⟨s', hs', rfl⟩ := prepend_eq_some_iff.mp hread
  obtain ⟨u, hu, rfl⟩ := ih hs'
  exact ⟨v ++ u, .cons hc hu, by rw [List.append_assoc]⟩

/-- The part of a number that its first surrogate carries. -/
lemma exists_of_isHighSurrogate {n : Nat} (h : isHighSurrogate n = true) :
    ∃ high < 0x400, n = 0xD800 + high := by
  simp only [isHighSurrogate, Bool.and_eq_true, decide_eq_true_eq] at h
  exact ⟨n - 0xD800, by omega, by omega⟩

/-- The part of a number that its second surrogate carries. -/
lemma exists_of_isLowSurrogate {n : Nat} (h : isLowSurrogate n = true) :
    ∃ low < 0x400, n = 0xDC00 + low := by
  simp only [isLowSurrogate, Bool.and_eq_true, decide_eq_true_eq] at h
  exact ⟨n - 0xDC00, by omega, by omega⟩

/-- What is read as a text is a spelling of it. -/
lemma exists_spellsText_of_readString {t s rest : List Char} (h : readString t = some (s, rest)) :
    ∃ u, SpellsText s u ∧ t = u ++ '"' :: rest := by
  -- The cases are the forms that a text can begin with, and in each the tests of its digits.
  fun_induction readString t generalizing s rest with
  | case1 | case3 | case4 | case5 | case7 | case9 | case10 | case13 | case14 => cases h
  | case2 rest' =>
    obtain ⟨rfl, rfl⟩ := Prod.mk.inj (Option.some.inj h)
    exact ⟨[], .nil, rfl⟩
  | case6 x₁ x₂ x₃ x₄ y₁ y₂ y₃ y₄ rest' n hn hnlow hnhigh m hm hmlow ih =>
    obtain ⟨high, hhighBits, rfl⟩ := exists_of_isHighSurrogate hnhigh
    obtain ⟨low, hlowBits, rfl⟩ := exists_of_isLowSurrogate hmlow
    have hnumber := toNat_ofSurrogates hhighBits hlowBits
    exact exists_spellsText_of_prepend (.pair hn hm hhighBits hlowBits hnumber) h ih
  | case8 x₁ x₂ x₃ x₄ y₁ y₂ y₃ y₄ rest' n hn hnlow hnhigh ih =>
    have hnumber := toNat_ofNat_of_hexUnit? hn (by simpa using hnlow) (by simpa using hnhigh)
    exact exists_spellsText_of_prepend (.unit (hn.trans (by rw [hnumber]))) h ih
  | case11 x₁ x₂ x₃ x₄ rest' hnext n hn hsurrogate ih =>
    obtain ⟨hnlow, hnhigh⟩ : isLowSurrogate n = false ∧ isHighSurrogate n = false := by
      simpa using hsurrogate
    have hnumber := toNat_ofNat_of_hexUnit? hn hnlow hnhigh
    exact exists_spellsText_of_prepend (.unit (hn.trans (by rw [hnumber]))) h ih
  | case12 l rest' hpair hunit c hl ih => exact exists_spellsText_of_prepend (.letter hl) h ih
  | case15 c rest' hquote hpair hunit hletter hplain ih =>
    obtain ⟨hslash, hctrl⟩ : c ≠ '\\' ∧ 32 ≤ c.toNat := by simpa using hplain
    exact exists_spellsText_of_prepend (.plain hquote hslash hctrl) h ih

/-- A text is read from its spellings, up to the next quotation mark, and from nothing else. -/
theorem readString_eq_some_iff {t s rest : List Char} :
    readString t = some (s, rest) ↔ ∃ u, SpellsText s u ∧ t = u ++ '"' :: rest := by
  constructor
  · exact exists_spellsText_of_readString
  · rintro ⟨u, hu, rfl⟩
    exact hu.readString_append rest

/-! ## The printed spelling -/

/-- The four digits of a control character denote it. -/
lemma hexUnit?_hexDigit {n : Nat} (hn : n < 32) :
    hexUnit? '0' '0' (hexDigit (n / 16)) (hexDigit (n % 16)) = some n := by
  revert n
  decide

/-- What is printed for a character is a spelling of it. -/
lemma spellsChar_escape (c : Char) : SpellsChar c (escape c) := by
  have hchar {n : Nat} (h : (c.toNat == n) = true) : Char.ofNat n = c := by
    rw [← beq_iff_eq.mp h, Char.ofNat_toNat]
  unfold escape
  split_ifs with hquote hslash hbackspace htab hfeed hform hreturn hctrl
  · exact .letter (congrArg some (beq_iff_eq.mp hquote).symm)
  · exact .letter (congrArg some (beq_iff_eq.mp hslash).symm)
  · exact .letter (congrArg some (hchar hbackspace))
  · exact .letter (congrArg some (hchar htab))
  · exact .letter (congrArg some (hchar hfeed))
  · exact .letter (congrArg some (hchar hform))
  · exact .letter (congrArg some (hchar hreturn))
  · exact .unit (hexUnit?_hexDigit hctrl)
  · exact .plain (by simpa using hquote) (by simpa using hslash) (by omega)

/-- What is printed for a text is a spelling of it. -/
lemma spellsText_flatMap_escape (s : List Char) : SpellsText s (s.flatMap escape) := by
  induction s with
  | nil => exact .nil
  | cons c s ih => exact .cons (spellsChar_escape c) ih

/-- A character that needs no escape is printed as it is. -/
lemma escape_of_plain {c : Char} (hquote : c ≠ '"') (hslash : c ≠ '\\') (hctrl : 32 ≤ c.toNat) :
    escape c = [c] := by
  have hne {n : Nat} (hn : n < 32) : c.toNat ≠ n := by omega
  simp [escape, hquote, hslash, hne, hctrl]

/-- A character that a letter stands for is printed by that letter, apart from the slash. -/
lemma escape_of_letter {l c : Char} (h : escaped? l = some c) :
    escape c = ['\\', l] ∨ l = '/' ∧ c = '/' := by
  unfold escaped? at h
  split at h
  case h_9 => cases h
  case h_3 => exact .inr ⟨rfl, (Option.some.inj h).symm⟩
  all_goals
    obtain rfl := Option.some.inj h
    exact .inl rfl

/-- What is printed for a character is no longer than an escape with four digits. -/
lemma length_escape_le (c : Char) : (escape c).length ≤ 6 := by
  unfold escape
  split_ifs <;> simp

/-- No spelling of a character is shorter than the printed one. -/
lemma SpellsChar.length_le {c : Char} {u : List Char} (h : SpellsChar c u) :
    (escape c).length ≤ u.length := by
  cases h with
  | plain hquote hslash hctrl =>
    exact Nat.le_of_eq (congrArg _ (escape_of_plain hquote hslash hctrl))
  | letter h =>
    rcases escape_of_letter h with heq | ⟨-, rfl⟩
    · exact Nat.le_of_eq (congrArg _ heq)
    · exact Nat.le_succ 1
  | unit => exact length_escape_le c
  | pair => exact Nat.le_trans (length_escape_le c) (Nat.le_add_left 6 6)

/-- No spelling of a text is shorter than the printed one. -/
lemma SpellsText.length_le {s u : List Char} (h : SpellsText s u) :
    (s.flatMap escape).length ≤ u.length := by
  induction h with
  | nil => exact Nat.le_refl 0
  | cons hc _ ih =>
    rw [List.flatMap_cons, List.length_append, List.length_append]
    exact Nat.add_le_add hc.length_le ih

/-! ## The compact spelling -/

/-- Whether a character is a blank. -/
def isBlank (c : Char) : Bool := c == ' ' || c == '\n' || c == '\t' || c == '\r'

/-- Whether four digits are those of a control character that has no letter, with small letters. -/
def isBareControl : Char → Char → Char → Char → Bool
  | '0', '0', '0', d => ['0', '1', '2', '3', '4', '5', '6', '7', 'b', 'e', 'f'].contains d
  | '0', '0', '1', d => "0123456789abcdef".toList.contains d
  | _, _, _, _ => false

/-- Whether there are no blanks between texts, and no escapes that are longer than they need be. At
first the place is within quotation marks or outside of them. -/
def isCompactFrom : (inside : Bool) → List Char → Bool
  | _, [] => true
  | false, c :: t => !isBlank c && isCompactFrom (c == '"') t
  | true, '"' :: t => isCompactFrom false t
  | true, '\\' :: 'u' :: x₁ :: x₂ :: x₃ :: x₄ :: t =>
    isBareControl x₁ x₂ x₃ x₄ && isCompactFrom true t
  | true, '\\' :: l :: t => l != '/' && isCompactFrom true t
  | true, _ :: t => isCompactFrom true t

/-- Outside of quotation marks it is compact where there is no blank. -/
lemma isCompactFrom_outside (c : Char) (t : List Char) :
    isCompactFrom false (c :: t) = (!isBlank c && isCompactFrom (c == '"') t) := rfl

/-- The digits of a control character that has no letter are printed. -/
lemma escape_of_isBareControl {x₁ x₂ x₃ x₄ : Char} (h : isBareControl x₁ x₂ x₃ x₄ = true) :
    ∃ n, hexUnit? x₁ x₂ x₃ x₄ = some n ∧ n < 32 ∧
      escape (Char.ofNat n) = ['\\', 'u', x₁, x₂, x₃, x₄] := by
  have hprinted {d : Char} (hd : ((hexUnit? x₁ x₂ x₃ d).any fun n =>
      n < 32 && escape (Char.ofNat n) == ['\\', 'u', x₁, x₂, x₃, d]) = true) :
      ∃ n, hexUnit? x₁ x₂ x₃ d = some n ∧ n < 32 ∧
        escape (Char.ofNat n) = ['\\', 'u', x₁, x₂, x₃, d] := by
    simpa [Option.any_eq_true] using hd
  unfold isBareControl at h
  -- There are two rows of digits, and the numbers of all digits in a row are computed.
  split at h
  case h_1 =>
    have hrow : (['0', '1', '2', '3', '4', '5', '6', '7', 'b', 'e', 'f'].all fun d =>
        (hexUnit? '0' '0' '0' d).any fun n =>
          n < 32 && escape (Char.ofNat n) == ['\\', 'u', '0', '0', '0', d]) = true := by
      decide
    exact hprinted (List.all_eq_true.mp hrow _ (List.contains_iff_mem.mp h))
  case h_2 =>
    have hrow : ("0123456789abcdef".toList.all fun d =>
        (hexUnit? '0' '0' '1' d).any fun n =>
          n < 32 && escape (Char.ofNat n) == ['\\', 'u', '0', '0', '1', d]) = true := by
      decide
    exact hprinted (List.all_eq_true.mp hrow _ (List.contains_iff_mem.mp h))
  case h_3 => cases h

/-- The digits that are printed are those of a control character that has no letter. -/
lemma isBareControl_hexDigit {n : Nat} (hn : n < 32) (hletter : n ∉ [8, 9, 10, 12, 13]) :
    isBareControl '0' '0' (hexDigit (n / 16)) (hexDigit (n % 16)) = true := by
  revert n
  decide

/-- Behind a character that needs no escape, a text goes on being compact or not. -/
lemma isCompactFrom_plain {c : Char} (hquote : c ≠ '"') (hslash : c ≠ '\\') (t : List Char) :
    isCompactFrom true (c :: t) = isCompactFrom true t := by
  rw [isCompactFrom]
  · exact hquote
  · exact fun _ _ _ _ _ h _ => hslash h
  · exact fun _ _ h _ => hslash h

/-- A letter behind a backslash is compact, apart from the slash. -/
lemma isCompactFrom_letter {l c : Char} (h : escaped? l = some c) (t : List Char) :
    isCompactFrom true ('\\' :: l :: t) = (l != '/' && isCompactFrom true t) := by
  rw [isCompactFrom]
  rintro x₁ x₂ x₃ x₄ t' rfl -
  cases h

/-- A compact spelling of a character is the printed one. -/
lemma SpellsChar.eq_of_isCompactFrom {c : Char} {u t : List Char} (h : SpellsChar c u)
    (hcompact : isCompactFrom true (u ++ t) = true) :
    u = escape c ∧ isCompactFrom true t = true := by
  cases h with
  | plain hquote hslash hctrl =>
    exact ⟨(escape_of_plain hquote hslash hctrl).symm,
      (isCompactFrom_plain hquote hslash t).symm.trans hcompact⟩
  | letter h =>
    obtain ⟨hslash, ht⟩ := Bool.and_eq_true_iff.mp ((isCompactFrom_letter h t).symm.trans hcompact)
    rcases escape_of_letter h with heq | ⟨rfl, -⟩
    · exact ⟨heq.symm, ht⟩
    · cases hslash
  | unit h =>
    obtain ⟨hbare, ht⟩ := Bool.and_eq_true_iff.mp hcompact
    obtain ⟨n, hn, -, heq⟩ := escape_of_isBareControl hbare
    obtain rfl : n = c.toNat := Option.some.inj (hn.symm.trans h)
    exact ⟨by rw [← heq, Char.ofNat_toNat], ht⟩
  | pair hhigh =>
    -- A surrogate is no control character.
    obtain ⟨hbare, -⟩ := Bool.and_eq_true_iff.mp hcompact
    obtain ⟨n, hn, hlt, -⟩ := escape_of_isBareControl hbare
    have := Option.some.inj (hn.symm.trans hhigh)
    omega

/-- What is printed for a character is compact. -/
lemma isCompactFrom_escape_append (c : Char) (t : List Char) :
    isCompactFrom true (escape c ++ t) = isCompactFrom true t := by
  unfold escape
  split_ifs with hquote hslash hbackspace htab hfeed hform hreturn hctrl
  iterate 7 exact isCompactFrom_letter rfl t
  · have hbare := isBareControl_hexDigit hctrl (by simp_all)
    exact (congrArg (· && isCompactFrom true t) hbare).trans (Bool.true_and _)
  · exact isCompactFrom_plain (by simpa using hquote) (by simpa using hslash) t

/-- A compact spelling of a text is the printed one. -/
lemma SpellsText.eq_of_isCompactFrom {s u t : List Char} (h : SpellsText s u)
    (hcompact : isCompactFrom true (u ++ '"' :: t) = true) :
    u = s.flatMap escape ∧ isCompactFrom false t = true := by
  induction h with
  | nil => exact ⟨rfl, hcompact⟩
  | cons hc _ ih =>
    rw [List.append_assoc] at hcompact
    obtain ⟨rfl, hrest⟩ := hc.eq_of_isCompactFrom hcompact
    obtain ⟨rfl, ht⟩ := ih hrest
    exact ⟨rfl, ht⟩

/-- What is printed for a text is compact. -/
lemma isCompactFrom_quote_append (s t : List Char) :
    isCompactFrom false (quote s ++ t) = isCompactFrom false t := by
  have hinside : isCompactFrom true (s.flatMap escape ++ '"' :: t) = isCompactFrom false t := by
    induction s with
    | nil => rfl
    | cons c s ih => rw [List.flatMap_cons, List.append_assoc, isCompactFrom_escape_append, ih]
  rw [← hinside, quote, List.cons_append, List.append_assoc, isCompactFrom_outside]
  rfl

end HttpAudit.Json
