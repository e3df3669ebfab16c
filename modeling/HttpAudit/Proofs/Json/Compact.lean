import HttpAudit.Proofs.Json.Spelling

set_option relaxedAutoImplicit false
set_option autoImplicit false

/-!
# Compact texts

Every value is printed without blanks outside of quotation marks and without needless escapes.

## Main definitions

* `HttpAudit.Json.isCompact` — a text has no blanks outside of quotation marks, and no needless
  escapes within them.
* `HttpAudit.Json.isBare` — there are neither blanks nor quotation marks.

## Main results

* `HttpAudit.Json.isBare_render` — numbers are printed without blanks and quotation marks.
* `HttpAudit.Json.isCompact_render` — the text of a value is compact.
-/

namespace HttpAudit.Json

/-- Whether a text has no blanks outside of quotation marks and no needless escapes within them. -/
def isCompact (t : String) : Bool := isCompactFrom false t.toList

/-! ## Outside of quotation marks -/

/-- Whether there are neither blanks nor quotation marks. -/
def isBare (s : String) : Bool := s.toList.all fun c => !isBlank c && c != '"'

/-- One text behind the other. -/
lemma isBare_append {s t : String} (hs : isBare s = true) (ht : isBare t = true) :
    isBare (s ++ t) = true := by
  rw [isBare, String.toList_append, List.all_append, Bool.and_eq_true]
  exact ⟨hs, ht⟩

/-- One of two texts. -/
lemma isBare_ite {p : Prop} [Decidable p] {s t : String} (hs : isBare s = true)
    (ht : isBare t = true) : isBare (if p then s else t) = true := by
  split_ifs
  · exact hs
  · exact ht

/-- A character that is neither a blank nor a quotation mark is compact. -/
lemma isCompactFrom_mark {c : Char} (hblank : isBlank c = false) (hquote : c ≠ '"')
    (t : List Char) : isCompactFrom false (c :: t) = isCompactFrom false t := by
  rw [isCompactFrom_outside, hblank, beq_eq_false_iff_ne.mpr hquote]
  rfl

/-- What has neither blanks nor quotation marks is compact. -/
lemma isCompactFrom_append_of_isBare {s : String} (h : isBare s = true) (t : List Char) :
    isCompactFrom false (s.toList ++ t) = isCompactFrom false t := by
  unfold isBare at h
  generalize s.toList = u at h ⊢
  induction u with
  | nil => rfl
  | cons c u ih =>
    rw [List.all_cons, Bool.and_eq_true, Bool.and_eq_true, Bool.not_eq_true', bne_iff_ne] at h
    obtain ⟨⟨hblank, hquote⟩, hu⟩ := h
    rw [List.cons_append, isCompactFrom_mark hblank hquote, ih hu]

/-! ## Numbers -/

/-- A natural number has only digits. -/
lemma isBare_toString (n : Nat) : isBare (toString n) = true := by
  rw [isBare, Nat.toString_eq_repr, Nat.toList_repr, List.all_eq_true]
  intro c hc
  have hdigit := Nat.isDigit_of_mem_toDigits (by decide) (by decide) hc
  have hne {d : Char} (hd : d.isDigit = false) : c ≠ d := by
    rintro rfl
    rw [hd] at hdigit
    cases hdigit
  have hblank : isBlank c = false := by
    simp only [isBlank, Bool.or_eq_false_iff, beq_eq_false_iff_ne]
    exact ⟨⟨⟨hne rfl, hne rfl⟩, hne rfl⟩, hne rfl⟩
  rw [hblank, bne_iff_ne.mpr (hne rfl)]
  rfl

/-- An integer has only digits and a sign. -/
lemma isBare_toString_int (n : Int) : isBare (toString n) = true := by
  cases n with
  | ofNat n => exact isBare_toString n
  | negSucc n => exact isBare_append (s := "-") rfl (isBare_toString (n + 1))

/-- A row of zeros. -/
lemma isBare_zeros (n : Nat) : isBare (Double.zeros n) = true := by
  rw [isBare, Double.zeros, String.toList_ofList, List.all_eq_true]
  intro c hc
  obtain rfl := List.eq_of_mem_replicate hc
  rfl

/-- A text into which a point is put. -/
lemma isBare_withPoint {s : String} (hs : isBare s = true) (n : Nat) :
    isBare (Double.withPoint s n) = true := by
  have hpart {u : List Char} (hu : ∀ c ∈ u, c ∈ s.toList) : isBare (.ofList u) = true := by
    rw [isBare, String.toList_ofList, List.all_eq_true]
    exact fun c hc => List.all_eq_true.mp hs c (hu c hc)
  exact isBare_append (isBare_append (hpart fun _ => List.mem_of_mem_take) rfl)
    (hpart fun _ => List.mem_of_mem_drop)

/-- A double precision number has only digits, signs, a point and the letter of an exponent. -/
lemma isBare_toText (d : Double) : isBare d.toText = true := by
  have hsign : isBare d.sign = true := isBare_ite rfl rfl
  have hdigits := isBare_toString (d.shortest .even).digits
  refine isBare_ite (isBare_append hsign rfl) (isBare_append hsign ?_)
  -- The point stands behind all digits, between two of them, or in front of all; or there is an
  -- exponent.
  refine isBare_ite (isBare_append (isBare_append hdigits (isBare_zeros _)) rfl) ?_
  refine isBare_ite (isBare_withPoint hdigits _) ?_
  refine isBare_ite (isBare_append (isBare_append rfl (isBare_zeros _)) hdigits) ?_
  refine isBare_append (isBare_append ?_ (isBare_ite rfl rfl)) (isBare_toString_int _)
  exact isBare_ite hdigits (isBare_withPoint hdigits _)

/-- Numbers are printed without blanks and quotation marks. -/
lemma isBare_render (n : Number) : isBare n.render = true := by
  cases n with
  | natural n => exact isBare_toString n
  | negative n => exact isBare_append (s := "-") rfl (isBare_toString n)
  | double d => exact isBare_toText d

/-! ## Values -/

mutual

/-- What is printed for a value is compact. -/
theorem isCompactFrom_renderChars_append (j : Json) (t : List Char) :
    isCompactFrom false (j.renderChars ++ t) = isCompactFrom false t := by
  match j with
  | null => rfl
  | bool true => rfl
  | bool false => rfl
  | number n => exact isCompactFrom_append_of_isBare (isBare_render n) t
  | string s => exact isCompactFrom_quote_append s.toList t
  | array items =>
    rw [renderChars, List.cons_append, isCompactFrom_mark rfl (by decide), List.append_assoc,
      isCompactFrom_renderItems_append, List.cons_append, isCompactFrom_mark rfl (by decide)]
    rfl
  | object members =>
    rw [renderChars, List.cons_append, isCompactFrom_mark rfl (by decide), List.append_assoc,
      isCompactFrom_renderMembers_append, List.cons_append, isCompactFrom_mark rfl (by decide)]
    rfl

/-- What is printed for items is compact. -/
theorem isCompactFrom_renderItems_append (items : List Json) (t : List Char) :
    isCompactFrom false (renderItems items ++ t) = isCompactFrom false t := by
  match items with
  | [] => rfl
  | [item] => exact isCompactFrom_renderChars_append item t
  | item :: next :: items =>
    rw [renderItems, List.append_assoc, isCompactFrom_renderChars_append, List.cons_append,
      isCompactFrom_mark rfl (by decide), isCompactFrom_renderItems_append (next :: items)]
    simp

/-- What is printed for members is compact. -/
theorem isCompactFrom_renderMembers_append (members : List (String × Json)) (t : List Char) :
    isCompactFrom false (renderMembers members ++ t) = isCompactFrom false t := by
  match members with
  | [] => rfl
  | [(key, value)] =>
    rw [renderMembers, List.append_assoc, isCompactFrom_quote_append, List.cons_append,
      isCompactFrom_mark rfl (by decide), isCompactFrom_renderChars_append]
  | (key, value) :: next :: members =>
    rw [renderMembers, List.append_assoc, List.append_assoc, isCompactFrom_quote_append,
      List.cons_append, List.cons_append, isCompactFrom_mark rfl (by decide),
      isCompactFrom_renderChars_append, isCompactFrom_mark rfl (by decide),
      isCompactFrom_renderMembers_append (next :: members)]
    simp

end

/-- The text of a value is compact. -/
theorem isCompact_render (j : Json) : isCompact j.render = true := by
  rw [isCompact, render, String.toList_ofList, ← List.append_nil j.renderChars,
    isCompactFrom_renderChars_append]
  rfl

end HttpAudit.Json
