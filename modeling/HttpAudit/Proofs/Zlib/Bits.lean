import HttpAudit.Zlib.Bits
import Mathlib.Algebra.Ring.Nat

set_option relaxedAutoImplicit false
set_option autoImplicit false

/-!
# Bits and bytes and back

Numbers that are written as bits are read back, and so are bits that are packed into bytes, apart
from the zeros with which the last byte is filled up. Where bytes follow, the bits before them are
aligned by leaving these zeros out.

## Main results

* `HttpAudit.Zlib.takeNumber_numberBits` — a number is read back.
* `HttpAudit.Zlib.exists_unpack_pack` — packed bits are read back, with zeros behind them.
* `HttpAudit.Zlib.align_padded` — what is aligned.
-/

namespace HttpAudit.Zlib

/-! ## Numbers -/

/-- A number has as many bits as it is wide. -/
@[simp] lemma length_numberBits (width n : Nat) : (numberBits width n).length = width := by
  induction width generalizing n with
  | zero => rfl
  | succ width ih => simp [numberBits, ih]

/-- The bits of a number that is not too wide stand for it. -/
lemma ofBits_numberBits {width n : Nat} (h : n < 2 ^ width) : ofBits (numberBits width n) = n := by
  induction width generalizing n with
  | zero =>
    obtain rfl : n = 0 := by simpa using h
    rfl
  | succ width ih =>
    have hhalf : n / 2 < 2 ^ width := by
      rw [Nat.pow_succ] at h
      omega
    rw [numberBits, ofBits, ih hhalf]
    by_cases hodd : n % 2 = 1
    · simp only [hodd, BEq.rfl, if_true]
      omega
    · have heven : n % 2 = 0 := by omega
      simp only [heven]
      have hne : (0 == 1) = false := rfl
      simp only [hne, Bool.false_eq_true, if_false]
      omega

/-- Bits are those of the number that they stand for. -/
lemma numberBits_ofBits (bits : List Bool) : numberBits bits.length (ofBits bits) = bits := by
  induction bits with
  | nil => rfl
  | cons b bits ih =>
    cases b with
    | false =>
      have hhalf : 2 * ofBits bits / 2 = ofBits bits := by omega
      simp [ofBits, numberBits, hhalf, ih]
    | true =>
      have hhalf : (1 + 2 * ofBits bits) / 2 = ofBits bits := by omega
      simp [ofBits, numberBits, hhalf, ih]

/-- Bits stand for a number that is no wider. -/
lemma ofBits_lt (bits : List Bool) : ofBits bits < 2 ^ bits.length := by
  induction bits with
  | nil => decide
  | cons b bits ih =>
    rw [ofBits, List.length_cons, Nat.pow_succ]
    split <;> omega

/-- A number that is not too wide is read back. -/
lemma takeNumber_numberBits {width n : Nat} (h : n < 2 ^ width) (bits : List Bool) :
    takeNumber width (numberBits width n ++ bits) = some (n, bits) := by
  have htake : (numberBits width n ++ bits).take width = numberBits width n :=
    List.take_left' (length_numberBits width n)
  have hdrop : (numberBits width n ++ bits).drop width = bits :=
    List.drop_left' (length_numberBits width n)
  simp [takeNumber, htake, hdrop, ofBits_numberBits h]

/-! ## Bytes -/

/-- Bytes one after the other. -/
lemma unpack_append (bytes more : List UInt8) :
    unpack (bytes ++ more) = unpack bytes ++ unpack more :=
  List.flatMap_append ..

/-- A byte has eight bits. -/
lemma length_unpack (bytes : List UInt8) : (unpack bytes).length = 8 * bytes.length := by
  induction bytes with
  | nil => rfl
  | cons b bytes ih =>
    rw [unpack, List.flatMap_cons, List.length_append, ← unpack, ih, length_numberBits,
      List.length_cons]
    omega

/-- The bits of a byte that is made of eight bits. -/
lemma numberBits_ofNat {bits : List Bool} (h : bits.length = 8) :
    numberBits 8 (UInt8.ofNat (ofBits bits)).toNat = bits := by
  have hlt := ofBits_lt bits
  rw [h] at hlt
  rw [UInt8.toNat_ofNat_of_lt' hlt, ← h, numberBits_ofBits]

/-- The bits of a byte that is made of fewer bits have zeros behind these. -/
lemma numberBits_ofNat_of_le {bits : List Bool} (h : bits.length ≤ 8) :
    numberBits 8 (UInt8.ofNat (ofBits bits)).toNat =
      bits ++ List.replicate (8 - bits.length) false := by
  have hzeros : ∀ n, ofBits (List.replicate n false) = 0 := by
    intro n
    induction n with
    | zero => rfl
    | succ n ih => simp [List.replicate_succ, ofBits, ih]
  have hpad : ofBits (bits ++ List.replicate (8 - bits.length) false) = ofBits bits := by
    generalize 8 - bits.length = n
    induction bits with
    | nil => rw [List.nil_append, hzeros, ofBits]
    | cons b bits ih =>
      rw [List.cons_append, ofBits, ofBits, ih (Nat.le_of_succ_le h)]
  rw [← hpad]
  exact numberBits_ofNat (by simp; omega)

/-- Bits that are packed into bytes are read back, with fewer than eight zeros behind them, which
fill up the last byte. -/
lemma exists_unpack_pack (bits : List Bool) :
    ∃ n < 8, unpack (pack bits) = bits ++ List.replicate n false := by
  obtain ⟨m, hm⟩ : ∃ m, bits.length = m := ⟨_, rfl⟩
  induction m using Nat.strongRecOn generalizing bits with
  | ind m ih =>
  by_cases hlong : 8 ≤ bits.length
  · obtain ⟨first, rest, rfl, hfirst⟩ : ∃ first rest, bits = first ++ rest ∧ first.length = 8 :=
      ⟨bits.take 8, bits.drop 8, (List.take_append_drop 8 bits).symm, List.length_take_of_le hlong⟩
    obtain ⟨n, hn, hrest⟩ := ih rest.length (by simp at hm; omega) rest rfl
    refine ⟨n, hn, ?_⟩
    have hpack : pack (first ++ rest) = UInt8.ofNat (ofBits first) :: pack rest := by
      match first, hfirst with
      | [a, b, c, d, e, f, g, h], _ => rfl
    rw [hpack, unpack, List.flatMap_cons, ← unpack, hrest, numberBits_ofNat hfirst,
      List.append_assoc]
  · cases hbits : bits with
    | nil => exact ⟨0, by omega, rfl⟩
    | cons b rest =>
      have hpack : pack bits = [UInt8.ofNat (ofBits bits)] := by
        unfold pack
        split
        · simp at hlong
        · cases hbits
        · rfl
      refine ⟨8 - bits.length, by simp [hbits]; omega, ?_⟩
      rw [← hbits, hpack, unpack, List.flatMap_singleton, numberBits_ofNat_of_le (by omega)]

/-- Before bytes, the zeros that fill up a byte are left out. -/
lemma align_padded {n : Nat} (hn : n < 8) (bytes : List UInt8) :
    align (List.replicate n false ++ unpack bytes) = unpack bytes := by
  have hlength : (List.replicate n false ++ unpack bytes).length % 8 = n := by
    simp only [List.length_append, List.length_replicate, length_unpack]
    omega
  rw [align, hlength]
  exact List.drop_left' List.length_replicate

end HttpAudit.Zlib
