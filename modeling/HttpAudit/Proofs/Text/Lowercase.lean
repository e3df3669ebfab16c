import HttpAudit.Text.Lowercase
import Mathlib.Tactic.Common

set_option relaxedAutoImplicit false
set_option autoImplicit false

/-!
# Line feeds and lower case

A text in lower case has a line feed where the text has one. A pattern whose dot stops at line feeds
can so be applied to the form in lower case as well.

## Main results

* `HttpAudit.Text.lineFeed_mem_lowercase_iff` — the form in lower case has a line feed if the text
  has one.
-/

namespace HttpAudit.Text

/-- No code point other than the line feed is lower-cased to it. -/
lemma Case.eq_of_lower_eq {c : Nat} (h : lower c = 10) : c = 10 := by
  have htargets : ∀ span ∈ commonSpans ++ lowerSpans, 10 < span.target := by decide +kernel
  unfold lower at h
  split at h
  case h_1 d hd =>
    obtain ⟨span, hspan, himage⟩ := List.exists_of_findSome?_eq_some hd
    unfold CaseSpan.image? at himage
    split_ifs at himage
    have htarget := htargets span hspan
    have hsum := Option.some.inj himage
    omega
  case h_2 => exact h

/-- A number stands for the line feed alone. -/
lemma eq_of_ofNat_eq {n : Nat} (h : Char.ofNat n = '\n') : n = 10 := by
  have hnat : (Char.ofNat n).toNat = 10 := by rw [h]; rfl
  unfold Char.ofNat at hnat
  by_cases hvalid : n.isValidChar
  · rw [dif_pos hvalid] at hnat
    exact hnat
  · rw [dif_neg hvalid] at hnat
    cases hnat

/-- The form of a character has a line feed if it is one. -/
lemma lineFeed_mem_lowerChar_iff {before after : List Char} {c : Char} :
    '\n' ∈ lowerChar before after c ↔ c = '\n' := by
  have hascii : ∀ n < 128, (Char.ofNat n).toLower = '\n' → n = 10 := by decide
  unfold lowerChar
  split_ifs with hlt hsigma hdotted
  · rw [List.mem_singleton]
    constructor
    · intro h
      have hnat := hascii c.toNat hlt (by rw [Char.ofNat_toNat, ← h])
      rw [← Char.ofNat_toNat c, hnat]
    · rintro rfl
      decide
  · obtain rfl : c = capitalSigma := by simpa using hsigma
    unfold lowerSigma
    split_ifs <;> decide
  · obtain rfl : c = capitalDottedI := by simpa using hdotted
    decide
  · rw [List.mem_singleton]
    constructor
    · intro h
      have hnat := Case.eq_of_lower_eq (eq_of_ofNat_eq h.symm)
      rw [← Char.ofNat_toNat c, hnat]
    · rintro rfl
      exact absurd (by decide) hlt

/-- The form of a text in lower case has a line feed if the text has one. -/
lemma lineFeed_mem_lowercase_iff {s : List Char} : '\n' ∈ lowercase s ↔ '\n' ∈ s := by
  have hfrom : ∀ before, '\n' ∈ lowercaseFrom before s ↔ '\n' ∈ s := by
    induction s with
    | nil => exact fun before => Iff.rfl
    | cons c rest ih =>
      intro before
      rw [lowercaseFrom, List.mem_append, lineFeed_mem_lowerChar_iff, ih, List.mem_cons, eq_comm]
  exact hfrom []

end HttpAudit.Text
