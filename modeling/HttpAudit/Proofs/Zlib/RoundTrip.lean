import HttpAudit.Proofs.Zlib.Bits
import HttpAudit.Proofs.Zlib.Token
import HttpAudit.Zlib.Inflate

set_option relaxedAutoImplicit false
set_option autoImplicit false

/-!
# Compressed data is decompressed

What compression writes is read back piece by piece: a code word by the tree of its code, the extra
bits of a length or a distance by the entry of its table, and the tokens of a block by expanding
each behind what was seen. The codes are fixed, so that which words they have is a computation.

## Main definitions

* `HttpAudit.Zlib.CodeTree.reads` — the symbol to which a code word leads.
* `HttpAudit.Zlib.IsEntry` — an entry of a table stands for a number.
* `HttpAudit.Zlib.Covers` — a table has entries for all numbers below a bound.

## Main results

* `HttpAudit.Zlib.takeToken_tokenBits` — a token is read back.
* `HttpAudit.Zlib.inflate_deflate` — a block is read back.
* `HttpAudit.Zlib.decompress_compress` — compressed data is decompressed.
-/

namespace HttpAudit.Zlib

/-! ## Code words -/

/-- The symbol to which a code word leads. -/
def CodeTree.reads : CodeTree → List Bool → Option Nat
  | leaf symbol, [] => some symbol
  | node zero one, b :: rest => if b then one.reads rest else zero.reads rest
  | _, _ => none

/-- A code word that leads to a symbol is read back. -/
lemma CodeTree.decode_append {t : CodeTree} {word : List Bool} {symbol : Nat}
    (h : t.reads word = some symbol) (bits : List Bool) :
    t.decode (word ++ bits) = some (symbol, bits) := by
  induction t generalizing word with
  | empty => simp [reads] at h
  | leaf s =>
    cases word with
    | nil =>
      obtain rfl : s = symbol := by simpa [reads] using h
      rfl
    | cons b word => simp [reads] at h
  | node zero one ihzero ihone =>
    cases word with
    | nil => simp [reads] at h
    | cons b word =>
      cases b with
      | false => exact ihzero h
      | true => exact ihone h

set_option maxRecDepth 8000 in
/-- Each fixed code word leads to its symbol, and is not empty. -/
lemma reads_fixedWords :
    (fixedWords.all fun entry =>
      BlockCodes.fixed.lengths.reads entry.2 == some entry.1 && !entry.2.isEmpty) = true := by
  decide +kernel

set_option maxRecDepth 8000 in
/-- The symbols of the fixed code words, in the order of the lengths of the words. -/
lemma symbols_fixedWords :
    fixedWords.map Prod.fst =
      List.range' 256 24 ++ List.range' 0 144 ++ List.range' 280 8 ++ List.range' 144 112 := by
  decide +kernel

/-- The symbols for bytes and lengths have fixed code words. -/
lemma exists_lookup_fixedWords {symbol : Nat} (h : symbol < 286) :
    ∃ word, fixedWords.lookup symbol = some word := by
  have hmem : symbol ∈ fixedWords.map Prod.fst := by
    rw [symbols_fixedWords]
    simp only [List.mem_append, List.mem_range'_1]
    omega
  obtain ⟨entry, hentry, rfl⟩ := List.mem_map.mp hmem
  cases hlookup : fixedWords.lookup entry.1 with
  | none => simpa using List.lookup_eq_none_iff.mp hlookup entry hentry
  | some word => exact ⟨word, rfl⟩

/-- The code word of a symbol for a byte or a length is not empty and leads to it. -/
lemma reads_codeWord {symbol : Nat} (h : symbol < 286) :
    BlockCodes.fixed.lengths.reads (codeWord fixedWords symbol) = some symbol ∧
      codeWord fixedWords symbol ≠ [] := by
  obtain ⟨word, hword⟩ := exists_lookup_fixedWords h
  have hmem : (symbol, word) ∈ fixedWords := by
    obtain ⟨l, l', hl, -⟩ := List.lookup_eq_some_iff.mp hword
    rw [hl]
    simp
  have hreads := List.all_eq_true.mp reads_fixedWords _ hmem
  rw [codeWord, hword, Option.getD_some]
  simpa using hreads

/-- The code word of a symbol for a distance leads to it. -/
lemma reads_distanceWord {symbol : Nat} (h : symbol < 30) :
    BlockCodes.fixed.distances.reads (codeWord fixedDistanceWords symbol) = some symbol := by
  have hall : ((List.range 30).all fun symbol =>
      BlockCodes.fixed.distances.reads (codeWord fixedDistanceWords symbol) == some symbol) =
        true := by
    decide +kernel
  simpa using List.all_eq_true.mp hall symbol (List.mem_range.mpr h)

/-! ## Entries of tables -/

/-- The entry of a table stands for the number: it is in the table, and its extra bits are enough
for what is beyond its least number. -/
def IsEntry (table : List (Nat × Nat)) (n : Nat) (entry : Nat × Nat × Nat) : Prop :=
  table[entry.1]? = some entry.2 ∧ entry.2.1 ≤ n ∧ n - entry.2.1 < 2 ^ entry.2.2

/-- Each number below the bound that is not less than the first entry has an entry: none lies
between the last number of an entry and the least one of the next. -/
def Covers (bound : Nat) : List (Nat × Nat) → Bool
  | [] => true
  | [(base, extra)] => bound ≤ base + 2 ^ extra
  | (base, extra) :: next :: rest => next.1 ≤ base + 2 ^ extra && Covers bound (next :: rest)

/-- The last entry that does not lie above a number below the bound has enough extra bits for it.

**Proof sketch.** Induction on the table. An entry is the last one that does not lie above the
number if all others lie above it. Then the number is less than the next entry, or there is none. -/
lemma last_entry_spec {table : List (Nat × Nat)} {bound n k i base extra : Nat}
    (hcovers : Covers bound table = true) (hn : n < bound)
    (hlast : ((table.zipIdx k).filter fun entry => entry.1.1 ≤ n).getLast? =
      some ((base, extra), i)) :
    k ≤ i ∧ IsEntry table n (i - k, base, extra) := by
  induction table generalizing k with
  | nil => simp at hlast
  | cons first rest ih =>
    have hrest : Covers bound rest = true := by
      cases rest with
      | nil => rfl
      | cons next rest => exact (Bool.and_eq_true_iff.mp hcovers).2
    have hbehind : ((rest.zipIdx (k + 1)).filter fun entry => entry.1.1 ≤ n).getLast? =
        some ((base, extra), i) → k ≤ i ∧ IsEntry (first :: rest) n (i - k, base, extra) := by
      intro h
      obtain ⟨hk, hget, hspec⟩ := ih hrest h
      refine ⟨by omega, ?_, hspec⟩
      have hindex : i - k = (i - (k + 1)) + 1 := by omega
      simp only [hindex, List.getElem?_cons_succ]
      exact hget
    rw [List.zipIdx_cons, List.filter_cons] at hlast
    split_ifs at hlast with hfirst
    · cases hothers : ((rest.zipIdx (k + 1)).filter fun entry => entry.1.1 ≤ n).getLast? with
      | some entry =>
        rw [List.getLast?_cons, hothers, Option.getD_some] at hlast
        exact hbehind (hothers.trans hlast)
      | none =>
        rw [List.getLast?_cons, hothers, Option.getD_none, Option.some.injEq,
          Prod.mk.injEq] at hlast
        obtain ⟨rfl, rfl⟩ := hlast
        have hbase : base ≤ n := by simpa using hfirst
        refine ⟨Nat.le_refl k, by simp, hbase, ?_⟩
        simp only
        cases rest with
        | nil =>
          have hbound : bound ≤ base + 2 ^ extra := by simpa [Covers] using hcovers
          omega
        | cons next rest =>
          have hnext : next.1 ≤ base + 2 ^ extra := by
            simpa using (Bool.and_eq_true_iff.mp hcovers).1
          have habove : n < next.1 := by
            have hnil := List.getLast?_eq_none_iff.mp hothers
            simpa using List.filter_eq_nil_iff.mp hnil (next, k + 1) (by simp)
          omega
    · exact hbehind hlast

/-- The entry of a number that the table covers stands for it. -/
lemma isEntry_tableEntry {table : List (Nat × Nat)} {bound n : Nat} {first : Nat × Nat}
    (hcovers : Covers bound table = true) (hfirst : table.head? = some first)
    (hmin : first.1 ≤ n) (hmax : n < bound) : IsEntry table n (tableEntry table n) := by
  rw [tableEntry]
  cases hlast : (table.zipIdx.filter fun entry => entry.1.1 ≤ n).getLast? with
  | none =>
    obtain ⟨rest, rfl⟩ := List.head?_eq_some_iff.mp hfirst
    have hnil := List.getLast?_eq_none_iff.mp hlast
    have habove := List.filter_eq_nil_iff.mp hnil (first, 0) (by simp)
    simp [hmin] at habove
  | some entry =>
    obtain ⟨⟨base, extra⟩, i⟩ := entry
    exact (last_entry_spec hcovers hmax hlast).2

/-- An entry that stands for a number is read back. -/
lemma takeEntry_numberBits {table : List (Nat × Nat)} {n i base extra : Nat}
    (h : IsEntry table n (i, base, extra)) (bits : List Bool) :
    takeEntry table i (numberBits extra (n - base) ++ bits) = some (n, bits) := by
  obtain ⟨hget, hbase, hextra⟩ := h
  simp only at hget hbase hextra
  rw [takeEntry, hget]
  simp only [Option.bind_eq_bind, Option.bind_some, takeNumber_numberBits hextra]
  rw [Nat.add_sub_cancel' hbase]

/-- The entries for the lengths of copies. -/
lemma isEntry_length {n : Nat} (hmin : 3 ≤ n) (hmax : n ≤ maxCopy) :
    IsEntry lengthTable n (tableEntry lengthTable n) ∧
      257 + (tableEntry lengthTable n).1 < 286 := by
  have hentry := isEntry_tableEntry (by decide : Covers (maxCopy + 1) lengthTable = true) rfl hmin
    (Nat.lt_succ_of_le hmax)
  have hindex : (tableEntry lengthTable n).1 < 29 := (List.getElem?_eq_some_iff.mp hentry.1).1
  exact ⟨hentry, by omega⟩

/-- The entries for the distances of copies. -/
lemma isEntry_distance {n : Nat} (hmin : 0 < n) (hmax : n ≤ searchDistance) :
    IsEntry distanceTable n (tableEntry distanceTable n) ∧ (tableEntry distanceTable n).1 < 30 := by
  have hentry := isEntry_tableEntry (by decide : Covers (searchDistance + 1) distanceTable = true)
    rfl hmin (Nat.lt_succ_of_le hmax)
  exact ⟨hentry, (List.getElem?_eq_some_iff.mp hentry.1).1⟩

/-! ## Tokens -/

/-- A token is read back, and has at least one bit. -/
lemma takeToken_tokenBits {t : Token} (h : t.IsShort) (bits : List Bool) :
    takeToken .fixed (tokenBits t ++ bits) = some (some t, bits) ∧ tokenBits t ≠ [] := by
  cases t with
  | literal b =>
    have hb : b.toNat < endOfBlock := b.toNat_lt
    obtain ⟨hreads, hne⟩ := reads_codeWord (Nat.lt_trans hb (by decide : endOfBlock < 286))
    refine ⟨?_, hne⟩
    rw [takeToken, tokenBits, CodeTree.decode_append hreads]
    simp [hb]
  | copy length distance =>
    obtain ⟨hmin, hmax, hpos, hfar⟩ := h
    obtain ⟨hlength, hsymbol⟩ := isEntry_length hmin hmax
    obtain ⟨hdistance, hindex⟩ := isEntry_distance hpos hfar
    rw [tokenBits]
    generalize tableEntry lengthTable length = entry at hlength hsymbol ⊢
    generalize tableEntry distanceTable distance = entry' at hdistance hindex ⊢
    obtain ⟨i, base, extra⟩ := entry
    obtain ⟨j, start, more⟩ := entry'
    obtain ⟨hreads, hne⟩ := reads_codeWord hsymbol
    have hword := reads_distanceWord hindex
    simp only at hreads hne hword ⊢
    refine ⟨?_, by simp [hne]⟩
    have hnot : ¬257 + i < endOfBlock := by
      unfold endOfBlock
      omega
    have hother : (257 + i == endOfBlock) = false := by
      rw [beq_eq_false_iff_ne]
      unfold endOfBlock
      omega
    rw [takeToken, List.append_assoc, List.append_assoc, List.append_assoc,
      CodeTree.decode_append hreads]
    simp only [Option.bind_eq_bind, Option.bind_some, if_neg hnot, hother, Bool.false_eq_true,
      if_false, Nat.add_sub_cancel_left, takeEntry_numberBits hlength,
      CodeTree.decode_append hword, takeEntry_numberBits hdistance]

/-- The end of a block is read back. -/
lemma takeToken_endOfBlock (bits : List Bool) :
    takeToken .fixed (codeWord fixedWords endOfBlock ++ bits) = some (none, bits) := by
  rw [takeToken, CodeTree.decode_append (reads_codeWord (by decide : endOfBlock < 286)).1]
  simp

/-- The tokens of a block are read back up to its end, and expanded. -/
lemma inflateTokens_tokenBits {ts : List Token} (hts : ∀ t ∈ ts, t.IsShort)
    {seen seen' : List UInt8} (hexpand : expandFrom seen ts = some seen') {fuel : Nat}
    (hfuel : ts.length < fuel) (bits : List Bool) :
    inflateTokens .fixed fuel seen
      (ts.flatMap tokenBits ++ codeWord fixedWords endOfBlock ++ bits) = some (seen', bits) := by
  induction ts generalizing seen fuel with
  | nil =>
    obtain ⟨fuel, rfl⟩ := Nat.exists_eq_succ_of_ne_zero (Nat.ne_zero_of_lt hfuel)
    obtain rfl : seen = seen' := by simpa [expandFrom] using hexpand
    rw [inflateTokens, List.flatMap_nil, List.nil_append, takeToken_endOfBlock]
  | cons t ts ih =>
    obtain ⟨fuel, rfl⟩ := Nat.exists_eq_succ_of_ne_zero (Nat.ne_zero_of_lt hfuel)
    obtain ⟨ht, hts⟩ := List.forall_mem_cons.mp hts
    obtain ⟨middle, hmiddle, hrest⟩ := Option.bind_eq_some_iff.mp hexpand
    rw [inflateTokens, List.flatMap_cons, List.append_assoc, List.append_assoc,
      (takeToken_tokenBits ht _).1]
    simp only [hmiddle]
    rw [← List.append_assoc]
    exact ih hts hrest (by simpa using hfuel)

/-- There are no more tokens than bits. -/
lemma length_le_flatMap_tokenBits {ts : List Token} (hts : ∀ t ∈ ts, t.IsShort) :
    ts.length ≤ (ts.flatMap tokenBits).length := by
  induction ts with
  | nil => exact Nat.le_refl _
  | cons t ts ih =>
    obtain ⟨ht, hts⟩ := List.forall_mem_cons.mp hts
    have hpos := List.length_pos_iff.mpr (takeToken_tokenBits ht []).2
    have hrest := ih hts
    rw [List.flatMap_cons, List.length_append, List.length_cons]
    omega

/-! ## Blocks -/

/-- A block is read back. -/
lemma inflate_deflate (data : List UInt8) (bits : List Bool) :
    inflate (deflate data ++ bits) = some (data, bits) := by
  obtain ⟨hexpand, hshort⟩ := @expandFrom_tokensFrom data.length [] data (Nat.le_refl _)
  have hlast : takeNumber 1 (true :: true :: false :: ((tokens data).flatMap tokenBits ++
      codeWord fixedWords endOfBlock ++ bits)) = some (1, true :: false ::
        ((tokens data).flatMap tokenBits ++ codeWord fixedWords endOfBlock ++ bits)) := rfl
  have hkind : takeNumber 2 (true :: false :: ((tokens data).flatMap tokenBits ++
      codeWord fixedWords endOfBlock ++ bits)) = some (1,
        (tokens data).flatMap tokenBits ++ codeWord fixedWords endOfBlock ++ bits) := rfl
  have hfuel : (tokens data).length <
      ((tokens data).flatMap tokenBits ++ codeWord fixedWords endOfBlock ++ bits).length + 1 := by
    have hlength := length_le_flatMap_tokenBits hshort
    simp only [tokens, List.length_append]
    omega
  have hblock := inflateTokens_tokenBits hshort hexpand hfuel bits
  have hdeflate : deflate data ++ bits = true :: true :: false ::
      ((tokens data).flatMap tokenBits ++ codeWord fixedWords endOfBlock ++ bits) := by
    simp [deflate]
  rw [inflate, hdeflate, inflateBlocks, hlast]
  simp only [Option.bind_eq_bind, Option.bind_some, hkind]
  rw [← tokens] at hblock
  rw [hblock]
  simp

/-- **Compressed data is decompressed.** What was compressed is what decompression gives.

**Proof sketch.** The block is read back from the bits of the bytes (`inflate_deflate`). Behind it
are the zeros that fill up its last byte, and the checksum (`exists_unpack_pack`, `align_padded`).
-/
theorem decompress_compress (data : List UInt8) : decompress (compress data) = some data := by
  obtain ⟨n, hn, hpack⟩ := exists_unpack_pack (deflate data)
  have hheader : isHeader 0x78 0x9C = true := by decide
  have hinflate : inflate (unpack (pack (deflate data) ++ adler32 data)) =
      some (data, List.replicate n false ++ unpack (adler32 data)) := by
    rw [unpack_append, hpack, List.append_assoc, inflate_deflate]
  show decompress (0x78 :: 0x9C :: (pack (deflate data) ++ adler32 data)) = some data
  rw [decompress, hinflate]
  simp [hheader, align_padded hn, guard]

end HttpAudit.Zlib
