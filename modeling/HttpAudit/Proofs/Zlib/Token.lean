import HttpAudit.Zlib.Token
import Mathlib.Tactic.Common

set_option relaxedAutoImplicit false
set_option autoImplicit false

/-!
# Copies of what came before

A copy is found by comparing the data with itself, from a distance on. Since it may run into the
data that it gives, what is compared goes on with the data to come. If both agree so far, then the
copy gives that data byte by byte.

## Main definitions

* `HttpAudit.Zlib.IsCopy` — a copy continues data.
* `HttpAudit.Zlib.Token.IsShort` — the lengths and distances that copies have.

## Main results

* `HttpAudit.Zlib.copyFrom_eq` — what a copy gives.
* `HttpAudit.Zlib.expandFrom_tokensFrom` — the tokens of data give the data.
-/

namespace HttpAudit.Zlib

/-! ## Copies -/

/-- The number of bytes that two pieces of data have in common is limited, and these bytes are the
same. -/
lemma commonLength_spec (limit : Nat) (xs ys : List UInt8) :
    commonLength limit xs ys ≤ limit ∧ commonLength limit xs ys ≤ ys.length ∧
      xs.take (commonLength limit xs ys) = ys.take (commonLength limit xs ys) := by
  induction limit generalizing xs ys with
  | zero => simp [commonLength]
  | succ limit ih =>
    cases xs with
    | nil => simp [commonLength]
    | cons x xs =>
      cases ys with
      | nil => simp [commonLength]
      | cons y ys =>
        obtain ⟨hlimit, hlength, hsame⟩ := ih xs ys
        rw [commonLength]
        split_ifs with hxy
        · rw [beq_iff_eq] at hxy
          refine ⟨by omega, by simpa using hlength, ?_⟩
          rw [List.take_succ_cons, List.take_succ_cons, hsame, hxy]
        · simp

/-- A copy from a distance gives the data to come, as far as that is the same as the data from the
distance on.

**Proof sketch.** Induction on the length. The first byte from the distance on is the first one to
come. Behind it, both pieces of data have moved on by one byte. -/
lemma copyFrom_eq {distance length : Nat} {seen rest : List UInt8} (hpos : 0 < distance)
    (hseen : distance ≤ seen.length) (hlength : length ≤ rest.length)
    (hsame : ((seen.take distance).reverse ++ rest).take length = rest.take length) :
    copyFrom distance length seen = some ((rest.take length).reverse ++ seen) := by
  induction length generalizing seen rest with
  | zero => rfl
  | succ length ih =>
    obtain ⟨b, rest, rfl⟩ := List.exists_cons_of_length_pos (by omega : 0 < rest.length)
    obtain ⟨source, hsource⟩ : ∃ source, (seen.take distance).reverse = b :: source := by
      cases hreverse : (seen.take distance).reverse with
      | nil =>
        have hzero := congrArg List.length hreverse
        rw [List.length_reverse, List.length_take, List.length_nil] at hzero
        omega
      | cons c source =>
        rw [hreverse] at hsame
        simp only [List.cons_append, List.take_succ_cons, List.cons.injEq] at hsame
        exact ⟨source, by rw [hsame.1]⟩
    have hbyte : seen[distance - 1]? = some b := by
      have hlast := congrArg List.head? hsource
      rw [List.head?_reverse, List.getLast?_eq_getElem?, List.length_take,
        Nat.min_eq_left hseen] at hlast
      rw [List.getElem?_take_of_lt (by omega)] at hlast
      exact hlast
    have hmoved : ((b :: seen).take distance).reverse = source ++ [b] := by
      obtain ⟨n, rfl⟩ : ∃ n, distance = n + 1 := ⟨distance - 1, by omega⟩
      have htake : seen.take (n + 1) = source.reverse ++ [b] := by
        rw [← List.reverse_reverse (seen.take (n + 1)), hsource, List.reverse_cons]
      have hshort : seen.take n = source.reverse := by
        have hn := congrArg (List.take n) htake
        have hlen := congrArg List.length htake
        simp at hlen
        rw [List.take_take, Nat.min_eq_left (Nat.le_succ n),
          List.take_left' (by simp; omega)] at hn
        exact hn
      rw [List.take_succ_cons, hshort]
      simp
    rw [copyFrom, hbyte]
    simp only
    rw [ih (by simp; omega) (by simpa using hlength)]
    · simp
    · rw [hsource, List.cons_append, List.take_succ_cons, List.take_succ_cons,
        List.cons.injEq] at hsame
      rw [hmoved, List.append_assoc]
      exact hsame.2

/-! ## Searching for copies -/

/-- The data from the distance on goes on like the data to come, for the given length. -/
structure IsCopy (seen rest : List UInt8) (length distance : Nat) : Prop where
  /-- There is a distance. -/
  pos : 0 < distance
  /-- So many bytes have been seen. -/
  le_seen : distance ≤ seen.length
  /-- Copies are not looked for farther away. -/
  le_search : distance ≤ searchDistance
  /-- The copy is not too long. -/
  le_max : length ≤ maxCopy
  /-- There is so much data to come. -/
  le_rest : length ≤ rest.length
  /-- Both pieces of data are the same. -/
  same : ((seen.take distance).reverse ++ rest).take length = rest.take length

/-- If what was found so far is a copy, or nothing, then what is found in the end is.

**Proof sketch.** Induction on the number of distances to try. The data that is compared is what was
seen from the distance on, followed by the data to come. -/
lemma longestFrom_spec {all rest : List UInt8} {fuel n : Nat} {seen source : List UInt8}
    {best : Nat × Nat} (hseen : all.drop n = seen) (hsource : (all.take n).reverse ++ rest = source)
    (hfuel : n + fuel = searchDistance) (hbest : best.1 = 0 ∨ IsCopy all rest best.1 best.2) :
    (longestFrom rest fuel (n + 1) seen source best).1 = 0 ∨
      IsCopy all rest (longestFrom rest fuel (n + 1) seen source best).1
        (longestFrom rest fuel (n + 1) seen source best).2 := by
  induction fuel generalizing n seen source best with
  | zero => exact hbest
  | succ fuel ih =>
    cases seen with
    | nil => exact hbest
    | cons b seen =>
      rw [longestFrom]
      split_ifs with hmax
      · exact hbest
      · have htake : all.take (n + 1) = all.take n ++ [b] := by
          rw [List.take_add_one, ← List.head?_drop, hseen]
          rfl
        have hnext : (all.take (n + 1)).reverse ++ rest = b :: source := by
          rw [htake, List.reverse_append, ← hsource]
          rfl
        have hdrop : all.drop (n + 1) = seen := by
          rw [← List.tail_drop, hseen]
          rfl
        refine ih hdrop hnext (by omega) ?_
        split_ifs with hbetter
        · obtain ⟨hlimit, hlength, hsame⟩ := commonLength_spec maxCopy (b :: source) rest
          refine .inr ⟨Nat.succ_pos n, ?_, by omega, hlimit, hlength, ?_⟩
          · have hpos := congrArg List.length hseen
            simp at hpos
            omega
          · rw [hnext, hsame]
        · exact hbest

/-- The longest copy that is found is one, unless nothing is found. -/
lemma longest_spec (seen rest : List UInt8) :
    (longest seen rest).1 = 0 ∨ IsCopy seen rest (longest seen rest).1 (longest seen rest).2 :=
  @longestFrom_spec seen rest searchDistance 0 seen rest (0, 0) rfl rfl (Nat.zero_add _) (.inl rfl)

/-! ## Tokens -/

/-- A copy is neither too short nor too long, and not from too far away. -/
def Token.IsShort : Token → Prop
  | .literal _ => True
  | .copy length distance =>
    3 ≤ length ∧ length ≤ maxCopy ∧ 0 < distance ∧ distance ≤ searchDistance

/-- The tokens of data give the data, and their copies are neither too long nor from too far away.

**Proof sketch.** Induction on the number of tokens that there may be. A copy is one of those that
`longest` finds, which gives the data to come (`copyFrom_eq`). -/
lemma expandFrom_tokensFrom {fuel : Nat} {seen rest : List UInt8} (h : rest.length ≤ fuel) :
    expandFrom seen (tokensFrom fuel seen rest) = some (rest.reverse ++ seen) ∧
      ∀ t ∈ tokensFrom fuel seen rest, t.IsShort := by
  induction fuel generalizing seen rest with
  | zero =>
    obtain rfl : rest = [] := List.length_eq_zero_iff.mp (Nat.le_zero.mp h)
    exact ⟨rfl, by simp [tokensFrom]⟩
  | succ fuel ih =>
    cases rest with
    | nil => exact ⟨rfl, by simp [tokensFrom]⟩
    | cons b rest =>
      rw [tokensFrom]
      have hcopy := longest_spec seen (b :: rest)
      generalize longest seen (b :: rest) = found at hcopy ⊢
      obtain ⟨length, distance⟩ := found
      simp only at hcopy ⊢
      split_ifs with hlong
      · replace hcopy := hcopy.resolve_left (by omega)
        obtain ⟨hexpand, hshort⟩ := @ih (((b :: rest).take length).reverse ++ seen)
          ((b :: rest).drop length) (by rw [List.length_drop]; omega)
        constructor
        · have hzero : (distance == 0) = false := by
            rw [beq_eq_false_iff_ne]
            exact Nat.pos_iff_ne_zero.mp hcopy.pos
          rw [expandFrom, expandToken, hzero]
          simp only [Bool.false_eq_true, if_false]
          rw [copyFrom_eq hcopy.pos hcopy.le_seen hcopy.le_rest hcopy.same, Option.bind_some,
            hexpand, ← List.append_assoc, ← List.reverse_append, List.take_append_drop]
        · exact List.forall_mem_cons.mpr
            ⟨⟨hlong, hcopy.le_max, hcopy.pos, hcopy.le_search⟩, hshort⟩
      · obtain ⟨hexpand, hshort⟩ := @ih (b :: seen) rest (by simpa using h)
        constructor
        · rw [expandFrom, expandToken, Option.bind_some, hexpand]
          simp
        · exact List.forall_mem_cons.mpr ⟨trivial, hshort⟩

end HttpAudit.Zlib
