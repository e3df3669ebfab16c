import HttpAudit.Proofs.Pattern.Spans

set_option relaxedAutoImplicit false
set_option autoImplicit false

/-!
# Replacing from left to right

A text with all matches of a pattern replaced is made in three steps: all preferred matches are
searched for, those are chosen of which none overlaps the one before it, and these are replaced.
Here the same is said in one pass over the places of the text. Each match is replaced where it is
found, and a character where none is found stays.

## Main definitions

* `HttpAudit.Pattern.Place.skip` — the place some characters further on.
* `HttpAudit.Pattern.replacedFrom` — a text from a place on, with all matches replaced.

## Main results

* `HttpAudit.Pattern.exists_stop_eq` — where a match ends.
* `HttpAudit.Pattern.replaceAll_eq` — the three steps do what the pass does.
-/

namespace HttpAudit.Pattern

/-! ## Where matches end -/

/-- The place `n` characters further on. -/
def Place.skip (p : Place) (n : Nat) : Place :=
  ⟨(p.rest.take n).reverse ++ p.before, p.rest.drop n⟩

/-- The offset of a place some characters further on. -/
lemma Place.offset_skip {p : Place} {n : Nat} (hn : n ≤ p.rest.length) :
    (p.skip n).offset = p.offset + n := by
  simp only [offset, skip, List.length_append, List.length_reverse, List.length_take]
  omega

/-- Going on twice is going on once. -/
lemma Place.skip_skip (p : Place) (m n : Nat) : (p.skip m).skip n = p.skip (m + n) := by
  simp [skip, List.take_add, List.drop_drop]

/-- A match ends some characters further on. -/
lemma Spans.exists_skip {node : Node} {p q : Place} (h : Spans node p q) :
    ∃ n ≤ p.rest.length, q = p.skip n := by
  have hself : ∀ p : Place, ∃ n ≤ p.rest.length, p = p.skip n :=
    fun p => ⟨0, Nat.zero_le _, rfl⟩
  have htwice : ∀ {p q r : Place}, (∃ n ≤ p.rest.length, q = p.skip n) →
      (∃ n ≤ q.rest.length, r = q.skip n) → ∃ n ≤ p.rest.length, r = p.skip n := by
    rintro p q r ⟨m, hm, rfl⟩ ⟨n, hn, rfl⟩
    refine ⟨m + n, ?_, Place.skip_skip ..⟩
    have hlength : (p.skip m).rest.length = p.rest.length - m := List.length_drop
    omega
  induction h with
  | empty p => exact hself p
  | chars h => exact ⟨1, by simp, by simp [Place.skip]⟩
  | assert h => exact hself _
  | group _ ih | left _ ih | right _ ih | once _ ih => exact ih
  | cat _ _ iha ihb => exact htwice iha ihb
  | more _ _ ih ihmore => exact htwice ih ihmore

/-- A match that ends where the text does has all of the text behind it. -/
lemma Spans.eq_of_rest_eq_nil {node : Node} {before s : List Char} {q : Place}
    (h : Spans node ⟨before, s⟩ q) (hq : q.rest = []) : q = ⟨s.reverse ++ before, []⟩ := by
  obtain ⟨n, -, rfl⟩ := h.exists_skip
  have hs : s.drop n = [] := hq
  rw [Place.skip, hs, List.take_of_length_le (List.drop_eq_nil_iff.mp hs)]

/-- A match that is found at a place ends some characters further on. -/
lemma exists_stop_eq {node : Node} {p : Place} {f : Found} (h : node.run goal p = some f) :
    ∃ n ≤ p.rest.length, f.stop = p.offset + n := by
  obtain ⟨q, g, hspans, hg, hstop⟩ := leads_of_run h
  obtain ⟨n, hn, rfl⟩ := hspans.exists_skip
  obtain rfl := Option.some.inj hg
  exact ⟨n, hn, hstop.trans (Place.offset_skip hn)⟩

/-! ## In one pass -/

/-- The number of characters of a match that is found at a place. -/
def Place.width (p : Place) : Option Found → Nat
  | some f => f.stop - p.offset
  | none => 0

/-- What a match that is found at a place is replaced by. An empty match does not count where
another match ended, as `matched` tells. -/
def replacedAt (p : Pattern) (template : Template) (matched : Bool) (place : Place) :
    Option Found → List Char
  | some f =>
    if matched && f.stop == place.offset then []
    else p.expandAt template ⟨place.offset, f.stop, f.marks⟩ place.rest
  | none => []

/-- The text from a place on with all matches replaced, where `matched` tells whether a match ended
at the place. -/
def replacedFrom (p : Pattern) (template : Template) (matched : Bool) (place : Place) :
    List Char :=
  let found := p.node.run goal place
  p.replacedAt template matched place found ++
    match _ : place.rest with
    | [] => []
    | c :: rest =>
      if _ : place.width found = 0 then c :: p.replacedFrom template false ⟨c :: place.before, rest⟩
      else p.replacedFrom template true (place.skip (place.width found))
termination_by place.rest.length
decreasing_by
  · have hrest : place.rest = c :: rest := by assumption
    simp [hrest]
  · have hrest : place.rest = c :: rest := by assumption
    have hwidth : place.width (p.node.run goal place) ≠ 0 := by assumption
    simp only [Place.skip, hrest, List.length_drop, List.length_cons]
    omega

/-- A character where no match is found stays. -/
lemma replacedFrom_of_none {p : Pattern} {template : Template} {matched : Bool}
    {before rest : List Char} {c : Char} (h : p.node.run goal ⟨before, c :: rest⟩ = none) :
    p.replacedFrom template matched ⟨before, c :: rest⟩ =
      c :: p.replacedFrom template false ⟨c :: before, rest⟩ := by
  rw [replacedFrom, h]
  rfl

/-- A match of `n` characters is replaced, and the text goes on behind it. -/
lemma replacedFrom_of_some {p : Pattern} {template : Template} {matched : Bool} {place : Place}
    {f : Found} {n : Nat} (h : p.node.run goal place = some f) (hstop : f.stop = place.offset + n)
    (hn : n ≠ 0) (hle : n ≤ place.rest.length) :
    p.replacedFrom template matched place =
      p.expandAt template ⟨place.offset, f.stop, f.marks⟩ place.rest ++
        p.replacedFrom template true (place.skip n) := by
  have hwidth : place.width (some f) = n := by
    rw [Place.width, hstop]
    omega
  have hcounts : (matched && f.stop == place.offset) = false := by
    rw [hstop, Bool.and_eq_false_iff, beq_eq_false_iff_ne]
    right
    omega
  rw [replacedFrom, h, replacedAt, if_neg (by simp [hcounts])]
  split
  case h_1 hrest =>
    rw [hrest] at hle
    exact absurd (Nat.le_zero.mp hle) hn
  case h_2 c rest hrest => rw [dif_neg (by rw [hwidth]; exact hn), hwidth]

/-! ## The choice of matches -/

/-- Once the search is behind the least start, this does not matter any more. -/
lemma successive_least {position least least' : Nat} {last : Option Nat}
    {found : List (Option Found)} (h : least ≤ position) (h' : least' ≤ position) :
    successive position least last found = successive position least' last found := by
  induction found generalizing position last with
  | nil => rfl
  | cons f found ih =>
    cases f with
    | none => exact ih (Nat.le_succ_of_le h) (Nat.le_succ_of_le h')
    | some f =>
      simp only [successive, Nat.not_lt.mpr h, Nat.not_lt.mpr h', decide_false, Bool.false_or]
      rw [ih (Nat.le_succ_of_le h) (Nat.le_succ_of_le h')]

/-- What is found before the least start is left out. -/
lemma successive_drop {position n : Nat} {last : Option Nat} {found : List (Option Found)} :
    successive position (position + n) last found =
      successive (position + n) (position + n) last (found.drop n) := by
  induction n generalizing position found with
  | zero => rfl
  | succ n ih =>
    cases found with
    | nil => rfl
    | cons f found =>
      have hskip : successive position (position + (n + 1)) last (f :: found) =
          successive (position + 1) (position + (n + 1)) last found := by
        cases f <;> simp [successive]
      rw [hskip, List.drop_succ_cons]
      have hnext := @ih (position + 1) found
      rw [Nat.add_assoc, Nat.add_comm 1 n] at hnext
      exact hnext

/-- Matches start where they are found. -/
lemma le_start_of_mem_successive {position least : Nat} {last : Option Nat}
    {found : List (Option Found)} {m : Match} (h : m ∈ successive position least last found) :
    position ≤ m.start := by
  induction found generalizing position least last with
  | nil => cases h
  | cons f found ih =>
    cases f with
    | none => exact Nat.le_of_succ_le (ih h)
    | some f =>
      rw [successive] at h
      split_ifs at h
      · exact Nat.le_of_succ_le (ih h)
      · rcases List.mem_cons.mp h with rfl | h
        · exact Nat.le_refl _
        · exact Nat.le_of_succ_le (ih h)

/-- A character before the first match stays. -/
lemma substitute_cons {replacement : Match → List Char → List Char} {c : Char} {rest : List Char}
    {position : Nat} {ms : List Match} (h : ∀ m ∈ ms, position + 1 ≤ m.start) :
    substitute replacement (c :: rest) position ms =
      c :: substitute replacement rest (position + 1) ms := by
  cases ms with
  | nil => rfl
  | cons m ms =>
    have hstart : m.start - position = (m.start - (position + 1)) + 1 := by
      have hle := h m List.mem_cons_self
      omega
    simp [substitute, hstart]

/-- The places from one on, some of which are left out. -/
lemma Place.drop_onward {before s : List Char} {n : Nat} (hn : n ≤ s.length) :
    (onward before s).drop n = onward ((s.take n).reverse ++ before) (s.drop n) := by
  induction n generalizing before s with
  | zero => rfl
  | succ n ih =>
    cases s with
    | nil => simp at hn
    | cons c s =>
      have hrest := @ih (c :: before) s (Nat.le_of_succ_le_succ hn)
      simpa [onward] using hrest

/-- Matches that start within another match are left out. -/
lemma successive_within {node : Node} {before rest : List Char} {c : Char} {n : Nat}
    {last : Option Nat} {q : Place} (hn : n ≤ rest.length)
    (hq : q = (⟨before, c :: rest⟩ : Place).skip (n + 1)) :
    successive (before.length + 1) q.offset last
        ((Place.onward (c :: before) rest).map (node.run goal)) =
      successive q.offset q.offset last
        ((Place.onward q.before q.rest).map (node.run goal)) := by
  have hsum : q.offset = before.length + 1 + n := by
    rw [hq, Place.offset_skip (Nat.succ_le_succ hn)]
    show before.length + (n + 1) = before.length + 1 + n
    omega
  have hbefore : q.before = (rest.take n).reverse ++ c :: before := by simp [hq, Place.skip]
  have hrest : q.rest = rest.drop n := by simp [hq, Place.skip]
  rw [hbefore, hrest, ← Place.drop_onward hn, List.map_drop, hsum]
  exact successive_drop

/-- Where no match starts, or an empty one does not count, the next character stays. -/
lemma substitute_stay {p : Pattern} {template : Template} {before rest : List Char} {c : Char}
    {last : Option Nat} (hlast : ∀ n ∈ last, n ≤ before.length)
    (hnext : substitute (p.expandAt template) rest (before.length + 1)
        (successive (before.length + 1) (before.length + 1) last
          ((Place.onward (c :: before) rest).map (p.node.run goal))) =
      p.replacedFrom template (last == some (before.length + 1)) ⟨c :: before, rest⟩) :
    substitute (p.expandAt template) (c :: rest) before.length
        (successive (before.length + 1) before.length last
          ((Place.onward (c :: before) rest).map (p.node.run goal))) =
      c :: p.replacedFrom template false ⟨c :: before, rest⟩ := by
  have hne : (last == some (before.length + 1)) = false := by
    cases last with
    | none => rfl
    | some m =>
      have hle := hlast m rfl
      simp only [beq_eq_false_iff_ne, ne_eq, Option.some.injEq]
      omega
  rw [substitute_cons fun m hm => le_start_of_mem_successive hm,
    successive_least (Nat.le_succ _) (Nat.le_refl _), hnext, hne]

/-- The replacements of the matches that are chosen from a place on, one after the other, are those
of the pass. -/
lemma substitute_successive (p : Pattern) (template : Template) (last : Option Nat) (place : Place)
    (hlast : ∀ n ∈ last, n ≤ place.offset) :
    substitute (p.expandAt template) place.rest place.offset
        (successive place.offset place.offset last
          ((Place.onward place.before place.rest).map (p.node.run goal))) =
      p.replacedFrom template (last == some place.offset) place := by
  induction hn : place.rest.length using Nat.strongRecOn generalizing place last with
  | ind n ih =>
    obtain ⟨before, rest⟩ := place
    rw [replacedFrom]
    cases rest with
    | nil =>
      cases hfound : p.node.run goal ⟨before, []⟩ with
      | none => simp [Place.onward, hfound, successive, substitute, replacedAt]
      | some f =>
        obtain ⟨w, hw, hstop⟩ := exists_stop_eq hfound
        obtain rfl : w = 0 := by simpa using hw
        by_cases hmatched : last = some before.length <;>
          simp [Place.onward, Place.offset, hfound, successive, replacedAt, hstop, hmatched,
            substitute]
    | cons c rest =>
      have hstay {last : Option Nat} (hlast : ∀ n ∈ last, n ≤ before.length) :=
        substitute_stay hlast (ih rest.length (by simp [← hn]) last ⟨c :: before, rest⟩
          (fun m hm => Nat.le_succ_of_le (hlast m hm)) rfl)
      cases hfound : p.node.run goal ⟨before, c :: rest⟩ with
      | none =>
        simp only [Place.onward, List.map_cons, hfound, Place.offset, successive]
        exact hstay hlast
      | some f =>
        obtain ⟨w, hw, hstop⟩ := exists_stop_eq hfound
        simp only [Place.offset, List.length_cons] at hw hstop
        simp only [Place.onward, List.map_cons, hfound, Place.offset, successive, Nat.lt_irrefl,
          Place.width, replacedAt, hstop, decide_false, Bool.false_or]
        cases w with
        | zero =>
          by_cases hmatched : last = some before.length
          · simpa [hmatched] using hstay hlast
          · simpa [hmatched, substitute] using @hstay (some before.length) (by simp)
        | succ w =>
          -- the search goes on at the end of the match, which is a place of its own
          obtain ⟨q, hq⟩ : ∃ q, q = (⟨before, c :: rest⟩ : Place).skip (w + 1) := ⟨_, rfl⟩
          have hoffset : q.offset = before.length + (w + 1) := by
            rw [hq, Place.offset_skip hw]
            rfl
          have hrest : q.rest = rest.drop w := by simp [hq, Place.skip]
          have hchosen := @successive_within p.node before rest c w (some q.offset) q
            (Nat.le_of_succ_le_succ hw) hq
          have hlength : q.rest.length < n := by
            rw [← hn, hrest, List.length_drop]
            show rest.length - w < rest.length + 1
            omega
          have hnext := ih q.rest.length hlength (some q.offset) q (by simp) rfl
          simp only [beq_self_eq_true] at hnext
          have hne : (q.offset == before.length) = false := by
            simp only [beq_eq_false_iff_ne]
            omega
          have hwidth : q.offset - before.length = w + 1 := by omega
          rw [← hoffset, hchosen]
          simp only [hne, Bool.false_and, Bool.and_false, Bool.false_eq_true, if_false, substitute,
            Nat.sub_self, List.take_zero, List.drop_zero, List.nil_append, hwidth,
            List.drop_succ_cons, Nat.succ_ne_zero, dif_neg, not_false_eq_true]
          rw [← hrest, hnext, ← hq]

/-- **One pass suffices.** Searching for all preferred matches, choosing those that do not overlap,
and replacing them does what the pass does.

**Proof sketch.** Induction on the length of the text from a place on. Where no match starts, the
matches that are chosen start further on, so that the next character stays
(`substitute_cons`). Behind a match, the choice goes on from its end (`successive_within`), and an
empty match is left out there, as it is by the pass. -/
theorem replaceAll_eq (p : Pattern) (template : Template) (s : List Char) :
    p.replaceAll template s = p.replacedFrom template false ⟨[], s⟩ := by
  unfold replaceAll findAll
  rw [scan_eq]
  exact substitute_successive p template none ⟨[], s⟩ (by simp)

end HttpAudit.Pattern
