import HttpAudit.Pattern.Escape
import Mathlib.Data.Option.Basic
import Mathlib.Tactic.Common

set_option relaxedAutoImplicit false
set_option autoImplicit false

/-!
# Patterns with something behind them

A pattern may be put in front of an anchor, or into a group in front of one. What is read of its
text does not change by this, apart from one case: in extended layout a comment at the end of the
pattern goes on through what is behind it, of which nothing is left then.

## Main definitions

* `HttpAudit.Pattern.trailer` — what is put behind the text of a pattern.
* `HttpAudit.Pattern.Trails` — a text with a trailer behind it.
* `HttpAudit.Pattern.Steady` — a trailer does not change what is read of a text.

## Main results

* `HttpAudit.Pattern.Trails.skip` — a trailer stays behind what is left out, or is left out itself.
* `HttpAudit.Pattern.steady_readEscape` — escapes are read in the same way.
-/

namespace HttpAudit.Pattern

/-! ## Trailers -/

/-- What is put behind the text of a pattern: an anchor, and the end of a group in front of it if
there is one. -/
def trailer (grouped : Bool) : List Char := if grouped then [')', '$'] else ['$']

/-- The texts `g` are the text `s` with a trailer behind it. A trailer within a comment is left out
together with the rest of the comment. -/
def Trails (s : List Char) (g : Bool → List Char) : Prop :=
  (∀ b, g b = s ++ trailer b) ∨ (s = [] ∧ ∀ b, g b = [])

/-- A trailer behind a text does not change what is read of it. -/
def Steady {α : Type} (read : List Char → Option (α × List Char)) : Prop :=
  ∀ {s rest : List Char} {x : α} {g : Bool → List Char}, read s = some (x, rest) → Trails s g →
    ∃ g', Trails rest g' ∧ ∀ b, read (g b) = some (x, g' b)

/-- A text starts with the same character with a trailer behind it. -/
lemma Trails.cons {c : Char} {s : List Char} {g : Bool → List Char} (h : Trails (c :: s) g) :
    ∃ g', Trails s g' ∧ ∀ b, g b = c :: g' b := by
  rcases h with h | ⟨h, -⟩
  · exact ⟨_, .inl fun _ => rfl, h⟩
  · cases h

/-- A trailer starts with a parenthesis or an anchor. -/
lemma trailer_eq_cons (b : Bool) : ∃ c rest, trailer b = c :: rest ∧ (c = ')' ∨ c = '$') := by
  cases b
  · exact ⟨'$', [], rfl, .inr rfl⟩
  · exact ⟨')', ['$'], rfl, .inl rfl⟩

/-- With a trailer behind it an empty text starts with the trailer, or it is still empty. -/
lemma Trails.nil {g : Bool → List Char} (h : Trails [] g) (b : Bool) :
    g b = [] ∨ ∃ c rest, g b = c :: rest ∧ (c = ')' ∨ c = '$') := by
  rcases h with h | ⟨-, h⟩
  · rw [h b, List.nil_append]
    exact .inr (trailer_eq_cons b)
  · exact .inl (h b)

/-- A text that does not start with the character does not do so with a trailer behind it. -/
lemma Trails.ne_cons {c : Char} {s : List Char} {g : Bool → List Char} (h : Trails s g)
    (hs : ∀ rest, s ≠ c :: rest) (hc : c ≠ ')' ∧ c ≠ '$') (b : Bool) (rest : List Char) :
    g b ≠ c :: rest := by
  intro hb
  cases s with
  | nil =>
    rcases h.nil b with hnil | ⟨d, rest', hcons, hd⟩
    · rw [hnil] at hb
      cases hb
    · rw [hcons] at hb
      cases hb
      exact hd.elim hc.1 hc.2
  | cons d s =>
    obtain ⟨g', -, hcons⟩ := h.cons
    rw [hcons] at hb
    cases hb
    exact hs s rfl

/-- The same for two characters. -/
lemma Trails.ne_cons_cons {c d : Char} {s : List Char} {g : Bool → List Char} (h : Trails s g)
    (hs : ∀ rest, s ≠ c :: d :: rest) (hc : c ≠ ')' ∧ c ≠ '$') (hd : d ≠ ')' ∧ d ≠ '$') (b : Bool)
    (rest : List Char) : g b ≠ c :: d :: rest := by
  by_cases hfirst : ∃ t, s = c :: t
  · obtain ⟨t, rfl⟩ := hfirst
    obtain ⟨g', hg', hcons⟩ := h.cons
    rw [hcons]
    intro heq
    exact hg'.ne_cons (fun rest ht => hs rest (by rw [ht])) hd b rest (List.cons.inj heq).2
  · exact h.ne_cons (not_exists.mp hfirst) hc b _

/-- A text is not empty with a trailer behind it either. -/
lemma Trails.ne_nil {s : List Char} {g : Bool → List Char} (h : Trails s g) (hs : s ≠ [])
    (b : Bool) : g b ≠ [] := by
  obtain ⟨c, s, rfl⟩ := List.exists_cons_of_ne_nil hs
  obtain ⟨g', -, hcons⟩ := h.cons
  rw [hcons]
  exact List.cons_ne_nil _ _

/-- A trailer does not shorten a text. -/
lemma Trails.length_le {s : List Char} {g : Bool → List Char} (h : Trails s g) (b : Bool) :
    s.length ≤ (g b).length := by
  rcases h with h | ⟨rfl, h⟩
  · rw [h, List.length_append]
    exact Nat.le_add_right _ _
  · exact Nat.zero_le _

/-- A trailer stays behind a text whose start is left out, or goes with a comment. -/
lemma skipIgnored_trailer (inComment : Bool) (s : List Char) :
    Trails (skipIgnored inComment s) fun b => skipIgnored inComment (s ++ trailer b) := by
  induction s generalizing inComment with
  | nil =>
    cases inComment
    · exact .inl fun b => by cases b <;> decide
    · exact .inr ⟨rfl, fun b => by cases b <;> decide⟩
  | cons c s ih =>
    cases inComment
    · simp only [List.cons_append, skipIgnored]
      split_ifs
      · exact ih false
      · exact ih true
      · exact .inl fun _ => rfl
    · exact ih _

/-- The same under flags, which may leave out nothing. -/
lemma Trails.skip {s : List Char} {g : Bool → List Char} (h : Trails s g) (flags : Flags) :
    Trails (flags.skip s) fun b => flags.skip (g b) := by
  unfold Flags.skip
  split_ifs
  · rcases h with h | ⟨rfl, h⟩
    · simp only [h]
      exact skipIgnored_trailer false s
    · simp only [h]
      exact .inr ⟨rfl, fun _ => rfl⟩
  · exact h

/-! ## Texts up to an end -/

/-- A reader that finds an end within the text is not concerned with what is behind it. -/
lemma steady_of_append {α : Type} {read : List Char → Option (α × List Char)}
    (hnil : read [] = none)
    (happend : ∀ {s rest : List Char} {x : α} (t : List Char), read s = some (x, rest) →
      read (s ++ t) = some (x, rest ++ t)) : Steady read := by
  intro s rest x g h hg
  rcases hg with hg | ⟨rfl, -⟩
  · refine ⟨_, .inl fun _ => rfl, fun b => ?_⟩
    rw [hg]
    exact happend _ h
  · rw [hnil] at h
    cases h

/-- A text in braces is read up to its brace. -/
lemma braced_append {extended inComment : Bool} {s text rest : List Char} (t : List Char)
    (h : braced extended inComment s = some (text, rest)) :
    braced extended inComment (s ++ t) = some (text, rest ++ t) := by
  induction s generalizing inComment text rest with
  | nil => cases inComment <;> cases h
  | cons c s ih =>
    cases inComment
    · rw [List.cons_append]
      unfold braced at h ⊢
      split_ifs at h ⊢
      · exact ih h
      · exact ih h
      · cases h
        rfl
      · obtain ⟨⟨text', rest'⟩, h', heq⟩ := Option.map_eq_some_iff.mp h
        cases heq
        rw [ih h']
        rfl
    · exact ih h

/-- So a trailer does not change it. -/
lemma steady_braced (extended : Bool) : Steady (braced extended false) :=
  steady_of_append rfl fun t h => braced_append t h

/-- A text is split at the first place where the character stands. -/
lemma splitFirst?_append {c : Char} {s before after : List Char} (t : List Char)
    (h : splitFirst? [c] s = some (before, after)) :
    splitFirst? [c] (s ++ t) = some (before, after ++ t) := by
  induction s generalizing before after with
  | nil => cases h
  | cons d s ih =>
    rw [List.cons_append]
    unfold splitFirst? at h ⊢
    simp only [List.isPrefixOf_cons_cons, List.isPrefixOf_nil_left, Bool.and_true] at h ⊢
    split_ifs at h ⊢
    · cases h
      rfl
    · obtain ⟨⟨before', after'⟩, h', heq⟩ := Option.map_eq_some_iff.mp h
      cases heq
      rw [ih h']
      rfl

/-- There is no colon in a trailer. -/
lemma splitFirst?_trailer {s : List Char} (h : splitFirst? [':'] s = none) (b : Bool) :
    splitFirst? [':'] (s ++ trailer b) = none := by
  induction s with
  | nil => cases b <;> decide
  | cons d s ih =>
    rw [List.cons_append]
    unfold splitFirst? at h ⊢
    simp only [List.isPrefixOf_cons_cons, List.isPrefixOf_nil_left, Bool.and_true] at h ⊢
    split_ifs at h ⊢
    rw [ih (Option.map_eq_none_iff.mp h)]
    rfl

/-- A group of flags is read up to its end. -/
lemma Flags.read_append {flags flags' : Flags} {seen seen' s rest : List Char} {ending : FlagsEnd}
    (t : List Char) (h : flags.read seen s = some (flags', seen', ending, rest)) :
    flags.read seen (s ++ t) = some (flags', seen', ending, rest ++ t) := by
  induction s generalizing flags seen with
  | nil => cases h
  | cons c s ih =>
    rw [List.cons_append]
    unfold Flags.read at h ⊢
    split_ifs at h ⊢
    · cases h
      rfl
    · cases h
      rfl
    · exact ih h
    · cases hset : flags.set? (!seen.contains '-') c with
      | none =>
        rw [hset] at h
        cases h
      | some flags'' =>
        rw [hset] at h
        exact ih h

/-- So a trailer does not change the flags. -/
lemma Trails.read_flags {flags flags' : Flags} {seen s rest : List Char} {ending : FlagsEnd}
    {g : Bool → List Char} (h : Trails s g)
    (hs : flags.read [] s = some (flags', seen, ending, rest)) :
    ∃ g', Trails rest g' ∧ ∀ b, flags.read [] (g b) = some (flags', seen, ending, g' b) := by
  rcases h with h | ⟨rfl, -⟩
  · exact ⟨_, .inl fun _ => rfl, fun b => by rw [h, Flags.read_append _ hs]⟩
  · cases hs

/-! ## Escapes -/

/-- Hexadecimal digits are read up to their number. -/
lemma steady_readHexDigits (flags : Flags) (count value : Nat) :
    Steady (readHexDigits flags count value) := by
  induction count generalizing value with
  | zero =>
    intro s rest x g h hg
    cases h
    exact ⟨g, hg, fun _ => rfl⟩
  | succ count ih =>
    intro s rest x g h hg
    cases s with
    | nil => cases h
    | cons c s =>
      obtain ⟨d, hd, h⟩ := Option.bind_eq_some_iff.mp h
      obtain ⟨g', hg', hcons⟩ := hg.cons
      obtain ⟨g'', hg'', hread⟩ := ih _ h (hg'.skip flags)
      refine ⟨g'', hg'', fun b => ?_⟩
      rw [hcons, readHexDigits, hd]
      exact hread b

/-- A code point is read up to its end. -/
lemma steady_readHex (flags : Flags) (count : Nat) : Steady (readHex flags count) := by
  intro s rest x g h hg
  have ht := hg.skip flags
  unfold readHex at h ⊢
  generalize flags.skip s = t at h ht
  split at h
  · obtain ⟨u, hu, hcons⟩ := ht.cons
    simp only [Option.bind_eq_bind, Option.bind_eq_some_iff] at h
    obtain ⟨⟨digits, rest'⟩, hbraced, _, hdigits, n, hn, c, hc, h⟩ := h
    cases h
    obtain ⟨g', hg', hread⟩ := steady_braced _ hbraced hu
    refine ⟨_, hg'.skip flags, fun b => ?_⟩
    simp only [hcons, hread, hdigits, hn, hc, Option.bind_eq_bind, Option.bind_some]
  · next t hbrace =>
    simp only [Option.bind_eq_bind, Option.bind_eq_some_iff] at h
    obtain ⟨⟨value, rest'⟩, hdigits, c, hc, h⟩ := h
    cases h
    obtain ⟨g', hg', hread⟩ := steady_readHexDigits flags count 0 hdigits ht
    refine ⟨g', hg', fun b => ?_⟩
    split
    · next hb => exact absurd hb (ht.ne_cons hbrace (by decide) b _)
    · simp only [hread, hc, Option.bind_eq_bind, Option.bind_some]

/-- A property is read up to its end. -/
lemma steady_readProperty (flags : Flags) (negated : Bool) :
    Steady (readProperty flags negated) := by
  intro s rest x g h hg
  have ht := hg.skip flags
  unfold readProperty at h ⊢
  generalize flags.skip s = t at h ht
  split at h
  · cases h
  · cases h
  · next t' =>
    obtain ⟨u, hu, hcons⟩ := ht.cons
    simp only [Option.bind_eq_bind, Option.bind_eq_some_iff] at h
    obtain ⟨⟨text, rest'⟩, hbraced, cls, hcls, h⟩ := h
    cases h
    obtain ⟨g', hg', hread⟩ := steady_braced _ hbraced hu
    refine ⟨g', hg', fun b => ?_⟩
    simp only [hcons, hread, hcls, Option.bind_eq_bind, Option.bind_some]
  · next c t' hslash hbrace =>
    obtain ⟨u, hu, hcons⟩ := ht.cons
    simp only [Option.bind_eq_bind, Option.bind_eq_some_iff] at h
    obtain ⟨cls, hcls, h⟩ := h
    cases h
    refine ⟨_, hu.skip flags, fun b => ?_⟩
    simp only [hcons, hcls, Option.bind_eq_bind, Option.bind_some]

/-- A trailer is not the name of a boundary. -/
lemma steady_readBoundary (flags : Flags) : Steady (readBoundary flags) := by
  intro s rest x g h hg
  unfold readBoundary at h
  split at h
  · next s' =>
    obtain ⟨g₁, hg₁, hcons⟩ := hg.cons
    have ht := hg₁.skip flags
    simp only [readBoundary, hcons]
    generalize flags.skip s' = t at h ht
    cases t with
    | nil => cases h
    | cons c t =>
      obtain ⟨u, -, hu⟩ := ht.cons
      by_cases hc : isBoundaryChar c = true
      · simp only [hu, if_pos hc, Option.bind_eq_bind, Option.bind_eq_some_iff] at h ⊢
        obtain ⟨⟨name, rest'⟩, hbraced, assertion, hassertion, h⟩ := h
        cases h
        obtain ⟨g', hg', hread⟩ := steady_braced _ hbraced hg₁
        exact ⟨g', hg', fun b => ⟨_, hread b, assertion, hassertion, rfl⟩⟩
      · simp only [hu, if_neg hc] at h ⊢
        cases h
        exact ⟨g, hg, fun b => by rw [hcons]⟩
  · next hbrace =>
    cases h
    refine ⟨g, hg, fun b => ?_⟩
    unfold readBoundary
    split
    · next hb => exact absurd hb (hg.ne_cons hbrace (by decide) b _)
    · rfl

/-- Apart from numbers, properties and boundaries an escape is a single letter. -/
lemma readEscape_letter (flags : Flags) {c : Char} (hc : c ∉ ['x', 'u', 'U', 'p', 'P', 'b'])
    (s : List Char) :
    readEscape flags (c :: s) = (readEscape flags [c]).map fun (atom, _) => (atom, s) := by
  simp only [readEscape]
  split
  all_goals first
    | exact absurd (by decide) hc
    | rfl
    | (rw [Option.map_map]; rfl)
    | (split_ifs <;> rfl)

/-- An escape is read in the same way with a trailer behind the text. -/
lemma steady_readEscape (flags : Flags) : Steady (readEscape flags) := by
  intro s rest x g h hg
  cases s with
  | nil => cases h
  | cons c s =>
    obtain ⟨g', hg', hcons⟩ := hg.cons
    simp only [hcons]
    by_cases hc : c ∈ ['x', 'u', 'U', 'p', 'P', 'b']
    · simp only [List.mem_cons, List.not_mem_nil, or_false] at hc
      rcases hc with rfl | rfl | rfl | rfl | rfl | rfl
      · exact steady_readHex _ _ h hg'
      · exact steady_readHex _ _ h hg'
      · exact steady_readHex _ _ h hg'
      · exact steady_readProperty _ _ h hg'
      · exact steady_readProperty _ _ h hg'
      · exact steady_readBoundary _ h hg'
    · rw [readEscape_letter flags hc] at h
      obtain ⟨⟨atom, _⟩, hatom, heq⟩ := Option.map_eq_some_iff.mp h
      cases heq
      exact ⟨g', hg', fun b => by rw [readEscape_letter flags hc, hatom]; rfl⟩

end HttpAudit.Pattern
