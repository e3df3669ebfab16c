import HttpAudit.Text.Utf8
import Mathlib.Tactic.Common

set_option relaxedAutoImplicit false
set_option autoImplicit false

/-!
# Texts as bytes and back

The bytes of a text are decoded to this text. A decoder goes byte by byte, so that it does not
matter how the bytes were put together.

## Main results

* `HttpAudit.Text.Utf8.piecesFrom_encodeChar` — the bytes of a character are decoded to it.
* `HttpAudit.Text.Utf8.decodeLossy_encode`, `HttpAudit.Text.Utf8.decode?_encode` — the bytes of a
  text are decoded to it, and nothing in them is malformed.
* `HttpAudit.Text.Utf8.encode_toList` — the bytes of a text are those with which it is stored.
-/

namespace HttpAudit.Text.Utf8

/-- Where the numbers of characters lie. -/
lemma toNat_bounds (c : Char) :
    c.toNat < 0xD800 ∨ (0xDFFF < c.toNat ∧ c.toNat < 0x110000) :=
  c.valid

/-- A number below 256 is that of its byte. -/
lemma toNat_ofNat {n : Nat} (h : n < 256) : (UInt8.ofNat n).toNat = n := by
  rw [UInt8.toNat_ofNat']
  exact Nat.mod_eq_of_lt h

/-- What the first byte of a character of several bytes is decoded to. -/
lemma piecesFrom_lead {b : Nat} {p : Pending} (hb : b < 256) (h : lead b = .pending p)
    (done : List Piece) (rest : List UInt8) :
    piecesFrom done none (UInt8.ofNat b :: rest) = piecesFrom done (some p) rest := by
  rw [piecesFrom, toNat_ofNat hb]
  simp only [step, start, h, List.reverse_nil, List.nil_append]

/-- What a byte in the middle of a character is decoded to. -/
lemma piecesFrom_middle {p : Pending} {b : Nat} (hb : b < 256) (hlow : p.low ≤ b)
    (hhigh : b ≤ p.high) (hmissing : 1 < p.missing) (done : List Piece) (rest : List UInt8) :
    piecesFrom done (some p) (UInt8.ofNat b :: rest) =
      piecesFrom done (some ⟨64 * p.value + (b - 0x80), p.missing - 1, 0x80, 0xBF⟩) rest := by
  rw [piecesFrom, toNat_ofNat hb]
  simp [step, hlow, hhigh, Nat.not_le.mpr hmissing]

/-- What the last byte of a character is decoded to. -/
lemma piecesFrom_last {p : Pending} {b : Nat} {c : Char} (hb : b < 256) (hlow : p.low ≤ b)
    (hhigh : b ≤ p.high) (hmissing : p.missing = 1) (hc : c.toNat = 64 * p.value + (b - 0x80))
    (done : List Piece) (rest : List UInt8) :
    piecesFrom done (some p) (UInt8.ofNat b :: rest) = piecesFrom (some c :: done) none rest := by
  rw [piecesFrom, toNat_ofNat hb]
  simp [step, hlow, hhigh, hmissing, ← hc, Char.ofNat_toNat]

/-- A byte that starts a character of two bytes. -/
lemma lead_two {b : Nat} (hlow : 0xC2 ≤ b) (hhigh : b ≤ 0xDF) :
    lead b = .pending ⟨b - 0xC0, 1, 0x80, 0xBF⟩ := by
  have hascii : ¬b < 0x80 := by omega
  simp [lead, hascii, hlow, hhigh]

/-- A byte that starts a character of three bytes. The least byte that may come next is greater
behind the first one of all, and the greatest is less where surrogates would follow. -/
lemma lead_three {b : Nat} (hlow : 0xE0 ≤ b) (hhigh : b ≤ 0xEF) :
    lead b = .pending ⟨b - 0xE0, 2, if b = 0xE0 then 0xA0 else 0x80,
      if b = 0xED then 0x9F else 0xBF⟩ := by
  have hascii : ¬b < 0x80 := by omega
  have htwo : ¬b ≤ 0xDF := by omega
  by_cases hfirst : b = 0xE0
  · simp [lead, hfirst]
  · by_cases hsurrogate : b = 0xED
    · simp [lead, hsurrogate]
    · have hrest : 0xE1 ≤ b := by omega
      simp [lead, hascii, htwo, hfirst, hsurrogate, hrest, hhigh]

/-- A byte that starts a character of four bytes. The least byte that may come next is greater
behind the first one, and the greatest is less behind the last one. -/
lemma lead_four {b : Nat} (hlow : 0xF0 ≤ b) (hhigh : b ≤ 0xF4) :
    lead b = .pending ⟨b - 0xF0, 3, if b = 0xF0 then 0x90 else 0x80,
      if b = 0xF4 then 0x8F else 0xBF⟩ := by
  obtain rfl | rfl | rfl | rfl | rfl : b = 0xF0 ∨ b = 0xF1 ∨ b = 0xF2 ∨ b = 0xF3 ∨ b = 0xF4 := by
    omega
  all_goals rfl

/-- The bytes of a character are decoded to it, whatever follows.

**Proof sketch.** By the number of bytes. The bits of the character are divided among them, and
each byte lies in the range in which the ones before it let it lie. -/
lemma piecesFrom_encodeChar (done : List Piece) (c : Char) (rest : List UInt8) :
    piecesFrom done none (encodeChar c ++ rest) = piecesFrom (some c :: done) none rest := by
  have hbounds := toNat_bounds c
  unfold encodeChar
  simp only
  split_ifs with hone htwo hthree
  · rw [List.singleton_append, piecesFrom, toNat_ofNat (by omega)]
    simp [step, start, lead, hone, Char.ofNat_toNat]
  · rw [List.cons_append, List.singleton_append,
      piecesFrom_lead (by omega) (lead_two (by omega) (by omega)),
      piecesFrom_last (c := c) (by omega) (by simp) (by simp; omega) rfl (by simp; omega)]
  · rw [List.cons_append, List.cons_append, List.singleton_append,
      piecesFrom_lead (by omega) (lead_three (by omega) (by omega)),
      piecesFrom_middle (by omega) (by simp only; split_ifs <;> omega)
        (by simp only; split_ifs <;> omega) (by simp),
      piecesFrom_last (c := c) (by omega) (by simp) (by simp; omega) rfl (by simp; omega)]
  · rw [List.cons_append, List.cons_append, List.cons_append, List.singleton_append,
      piecesFrom_lead (by omega) (lead_four (by omega) (by omega)),
      piecesFrom_middle (by omega) (by simp only; split_ifs <;> omega)
        (by simp only; split_ifs <;> omega) (by simp),
      piecesFrom_middle (by omega) (by simp) (by simp; omega) (by simp),
      piecesFrom_last (c := c) (by omega) (by simp) (by simp; omega) rfl (by simp; omega)]

/-- The bytes of a text are decoded to its characters, behind what has been decoded. -/
lemma piecesFrom_encode (done : List Piece) (s : List Char) :
    piecesFrom done none (encode s) = done.reverse ++ s.map some := by
  induction s generalizing done with
  | nil => simp [encode, piecesFrom]
  | cons c s ih =>
    have hcons : encode (c :: s) = encodeChar c ++ encode s := List.flatMap_cons ..
    rw [hcons, piecesFrom_encodeChar, ih]
    simp

/-- The bytes of a text are decoded to it. -/
lemma decodeLossy_encode (s : List Char) : decodeLossy (encode s) = s := by
  rw [decodeLossy, pieces, piecesFrom_encode, List.reverse_nil, List.nil_append, List.map_map]
  exact List.map_id s

/-- The bytes of a text are valid, and decoding them gives it back. -/
lemma decode?_encode (s : List Char) : decode? (encode s) = some s := by
  have hpieces : pieces (encode s) = s.map some := by
    rw [pieces, piecesFrom_encode, List.reverse_nil, List.nil_append]
  simp [decode?, hpieces]

/-- The bytes of a character are those with which characters are stored. -/
lemma encodeChar_eq (c : Char) : encodeChar c = String.utf8EncodeChar c := by
  have hbounds := toNat_bounds c
  have hval : c.val.toNat = c.toNat := rfl
  unfold encodeChar String.utf8EncodeChar
  simp only [hval]
  generalize c.toNat = n at hbounds
  -- The bounds of the ranges and the sums are spelled differently.
  simp only [← Nat.lt_succ_iff]
  split_ifs with hone htwo hthree
  · rfl
  · rw [Nat.mod_eq_of_lt (by omega : n / 64 < 32), Nat.add_comm 192, Nat.add_comm 128]
  · rw [Nat.mod_eq_of_lt (by omega : n / 4096 < 16), Nat.add_comm 224,
      Nat.add_comm 128 (n / 64 % 64), Nat.add_comm 128]
  · rw [Nat.mod_eq_of_lt (by omega : n / 262144 < 8), Nat.add_comm 240,
      Nat.add_comm 128 (n / 4096 % 64), Nat.add_comm 128 (n / 64 % 64), Nat.add_comm 128]

/-- The bytes of a text are those with which it is stored. -/
lemma encode_toList (s : String) : encode s.toList = s.toUTF8.data.toList := by
  have hbytes : s.toList.utf8Encode = s.toUTF8 := String.utf8Encode_toList
  rw [← hbytes, List.utf8Encode, List.data_toByteArray, encode]
  exact congrArg s.toList.flatMap (funext encodeChar_eq)

end HttpAudit.Text.Utf8
