import HttpAudit.Pattern.Bracket
import HttpAudit.Proofs.Pattern.Trailer

set_option relaxedAutoImplicit false
set_option autoImplicit false

/-!
# Classes with something behind them

A class in brackets ends at its closing bracket. While it is read, some characters ahead are looked
at: those behind a hyphen, the second sign of an operator, the name of a class. None of them is
taken from what is behind the pattern.

## Main definitions

* `HttpAudit.Pattern.openItems` — the items at the start of a class.
* `HttpAudit.Pattern.ahead` — the text that a hyphen looks at.
* `HttpAudit.Pattern.SetTrails` — a class is read in the same way with a trailer behind the text.

## Main results

* `HttpAudit.Pattern.steady_readBracket` — classes in brackets are read in the same way with a
  trailer behind the text.
-/

namespace HttpAudit.Pattern

/-! ## The start of a class -/

/-- Hyphens are counted in the same way with a trailer behind the text. -/
lemma readHyphens_trailer (extended inComment : Bool) (s : List Char) :
    Trails (readHyphens extended inComment s).2
        (fun b => (readHyphens extended inComment (s ++ trailer b)).2) ∧
      ∀ b, (readHyphens extended inComment (s ++ trailer b)).1 =
        (readHyphens extended inComment s).1 := by
  induction s generalizing inComment with
  | nil =>
    cases inComment
    · refine ⟨.inl fun b => ?_, fun b => ?_⟩ <;> cases extended <;> cases b <;> decide
    · refine ⟨.inr ⟨rfl, fun b => ?_⟩, fun b => ?_⟩ <;> cases extended <;> cases b <;> decide
  | cons c s ih =>
    cases inComment
    · simp only [List.cons_append, readHyphens]
      split_ifs
      · exact ⟨(ih false).1, fun b => congrArg (· + 1) ((ih false).2 b)⟩
      · exact ih false
      · exact ih true
      · exact ⟨.inl fun _ => rfl, fun _ => rfl⟩
    · exact ih _

/-- A trailer stays behind hyphens. -/
lemma Trails.readHyphens {s : List Char} {g : Bool → List Char} (h : Trails s g)
    (extended : Bool) :
    ∃ g', Trails (readHyphens extended false s).2 g' ∧
      ∀ b, Pattern.readHyphens extended false (g b) =
        ((Pattern.readHyphens extended false s).1, g' b) := by
  rcases h with h | ⟨rfl, h⟩
  · obtain ⟨hrest, hcount⟩ := readHyphens_trailer extended false s
    exact ⟨_, hrest, fun b => by rw [h, ← hcount b]⟩
  · exact ⟨g, .inr ⟨rfl, h⟩, fun b => by rw [h]; rfl⟩

/-- The items at the start of a class, behind the caret of a complement. -/
def openItems (flags : Flags) (negated : Bool) (s : List Char) : SetState × List Char :=
  match readHyphens flags.extended false s with
  | (0, ']' :: rest) => (⟨negated, none, [⟨.single ']', 0⟩]⟩, rest)
  | (count, rest) => (⟨negated, none, List.replicate count ⟨.single '-', 0⟩⟩, rest)

/-- A caret in front makes a class a complement. -/
lemma openSet_caret {flags : Flags} {s t : List Char} (h : flags.skip s = '^' :: t) :
    openSet flags s = openItems flags true t := by
  simp only [openSet, openItems, h]
  split <;> split <;> simp_all

/-- Without a caret in front it is none. -/
lemma openSet_of_ne {flags : Flags} {s : List Char} (h : ∀ t, flags.skip s ≠ '^' :: t) :
    openSet flags s = openItems flags false (flags.skip s) := by
  simp only [openSet, openItems]
  split <;> split <;> simp_all

/-- A trailer stays behind the items at the start. -/
lemma Trails.openItems {s : List Char} {g : Bool → List Char} (h : Trails s g) (flags : Flags)
    (negated : Bool) :
    ∃ g', Trails (openItems flags negated s).2 g' ∧
      ∀ b, Pattern.openItems flags negated (g b) =
        ((Pattern.openItems flags negated s).1, g' b) := by
  obtain ⟨u, hu, hhyphens⟩ := h.readHyphens flags.extended
  simp only [Pattern.openItems, hhyphens]
  generalize Pattern.readHyphens flags.extended false s = hyphens at hu
  obtain ⟨count, t⟩ := hyphens
  split
  · next heq =>
    cases heq
    obtain ⟨g', hg', hcons⟩ := hu.cons
    exact ⟨g', hg', fun b => by simp only [hcons]⟩
  · next hbracket heq =>
    cases heq
    refine ⟨u, hu, fun b => ?_⟩
    split
    · next hb =>
      obtain ⟨rfl, hb'⟩ := Prod.mk.inj hb
      exact (hu.ne_cons (fun rest ht => hbracket rest rfl ht) (by decide) b _ hb').elim
    · next heq =>
      cases heq
      rfl

/-- A trailer stays behind the start of a class. -/
lemma Trails.openSet {s : List Char} {g : Bool → List Char} (h : Trails s g) (flags : Flags) :
    ∃ g', Trails (openSet flags s).2 g' ∧
      ∀ b, Pattern.openSet flags (g b) = ((Pattern.openSet flags s).1, g' b) := by
  have ht := h.skip flags
  by_cases hcaret : ∃ t, flags.skip s = '^' :: t
  · obtain ⟨t, hs⟩ := hcaret
    rw [openSet_caret hs]
    rw [hs] at ht
    obtain ⟨u, hu, hcons⟩ := ht.cons
    obtain ⟨g', hg', hopen⟩ := hu.openItems flags true
    exact ⟨g', hg', fun b => by rw [openSet_caret (hcons b), hopen]⟩
  · replace hcaret := not_exists.mp hcaret
    rw [openSet_of_ne hcaret]
    obtain ⟨g', hg', hopen⟩ := ht.openItems flags false
    exact ⟨g', hg', fun b => by
      rw [openSet_of_ne (ht.ne_cons hcaret (by decide) b), hopen]⟩

/-! ## Names of classes -/

/-- The name of a class is read up to its bracket. -/
lemma named_append {s rest : List Char} {negated negated' : Bool} {cls : CharClass}
    (t : List Char) (h : readNamedClass?.named negated s = some (negated', cls, rest)) :
    readNamedClass?.named negated (s ++ t) = some (negated', cls, rest ++ t) := by
  unfold readNamedClass?.named at h ⊢
  split at h
  · next hsplit =>
    rw [splitFirst?_append t hsplit]
    obtain ⟨cls, hcls, heq⟩ := Option.map_eq_some_iff.mp h
    cases heq
    exact Option.map_eq_some_iff.mpr ⟨cls, hcls, rfl⟩
  · cases h

/-- A trailer does not complete a name. -/
lemma named_trailer {s : List Char} {negated : Bool} (h : readNamedClass?.named negated s = none)
    (b : Bool) : readNamedClass?.named negated (s ++ trailer b) = none := by
  unfold readNamedClass?.named at h ⊢
  cases hsplit : splitFirst? [':'] s with
  | none => rw [splitFirst?_trailer hsplit]
  | some split =>
    obtain ⟨name, after⟩ := split
    rw [splitFirst?_append _ hsplit]
    cases after with
    | nil => cases b <;> rfl
    | cons c after =>
      rw [hsplit] at h
      dsimp only [List.cons_append]
      split at h
      · next heq =>
        cases heq
        exact Option.map_eq_none_iff.mpr (Option.map_eq_none_iff.mp h)
      · next hbracket =>
        split
        · next heq =>
          cases heq
          exact (hbracket _ _ rfl).elim
        · rfl

/-- A class that is named is read up to its bracket. -/
lemma readNamedClass?_append {s rest : List Char} {negated : Bool} {cls : CharClass}
    (t : List Char) (h : readNamedClass? s = some (negated, cls, rest)) :
    readNamedClass? (s ++ t) = some (negated, cls, rest ++ t) := by
  unfold readNamedClass? at h
  split at h
  · exact named_append t h
  · next s hcaret =>
    cases s with
    | nil => cases h
    | cons c s =>
      rw [List.cons_append, List.cons_append, readNamedClass?]
      · exact named_append t h
      · rintro rest heq
        cases heq
        exact hcaret _ rfl
  · cases h

/-- A trailer does not make a name of a text that is none. -/
lemma readNamedClass?_trailer {s : List Char} (h : readNamedClass? s = none) (b : Bool) :
    readNamedClass? (s ++ trailer b) = none := by
  unfold readNamedClass? at h
  split at h
  · exact named_trailer h b
  · next s hcaret =>
    rw [List.cons_append, readNamedClass?]
    · exact named_trailer h b
    · have htrails : Trails s fun b => s ++ trailer b := .inl fun _ => rfl
      exact fun rest => htrails.ne_cons hcaret (by decide) b rest
  · next hcolon =>
    have htrails : Trails s fun b => s ++ trailer b := .inl fun _ => rfl
    have hne := fun rest => htrails.ne_cons hcolon (by decide) b rest
    rw [readNamedClass?]
    · exact fun rest => hne _
    · exact hne

/-- A trailer stays behind a class that is named. -/
lemma Trails.readNamedClass?_eq_some {s rest : List Char} {negated : Bool} {cls : CharClass}
    {g : Bool → List Char} (h : Trails s g)
    (hs : readNamedClass? s = some (negated, cls, rest)) :
    ∃ g', Trails rest g' ∧ ∀ b, readNamedClass? (g b) = some (negated, cls, g' b) := by
  rcases h with h | ⟨rfl, -⟩
  · exact ⟨_, .inl fun _ => rfl, fun b => by rw [h, readNamedClass?_append _ hs]⟩
  · cases hs

/-- Where no class is named, none is with a trailer behind the text. -/
lemma Trails.readNamedClass?_eq_none {s : List Char} {g : Bool → List Char} (h : Trails s g)
    (hs : readNamedClass? s = none) (b : Bool) : readNamedClass? (g b) = none := by
  rcases h with h | ⟨rfl, h⟩
  · rw [h, readNamedClass?_trailer hs]
  · rw [h, hs]

/-! ## Items -/

/-- A character of a class is read in the same way with a trailer behind the text. -/
lemma steady_readSetAtom (flags : Flags) : Steady (readSetAtom flags) := by
  intro s rest x g h hg
  unfold readSetAtom at h
  split at h
  · cases h
  · obtain ⟨g', hg', hcons⟩ := hg.cons
    simp only [hcons]
    exact steady_readEscape flags h hg'
  · next c s hslash =>
    cases h
    obtain ⟨g', hg', hcons⟩ := hg.cons
    refine ⟨g', hg', fun b => ?_⟩
    rw [hcons, readSetAtom]
    exact hslash

/-- The text that a hyphen looks at when blanks are left out. -/
def ahead (s : List Char) : List Char :=
  match s.dropWhile Text.isBlank with
  | '#' :: rest => rest.dropWhile Text.isBlank
  | t => t

/-- In extended layout a hyphen looks ahead, and if nothing is there, behind itself. -/
lemma peekItem_extended {flags : Flags} (h : flags.extended = true) (s : List Char) :
    peekItem flags s = ((ahead s).head? <|> s.head?) := by
  rw [peekItem, if_pos h]
  rfl

/-- A trailer does not start with a blank. -/
lemma dropWhile_trailer (s : List Char) (b : Bool) :
    (s ++ trailer b).dropWhile Text.isBlank = s.dropWhile Text.isBlank ++ trailer b := by
  rw [List.dropWhile_append]
  split_ifs with h
  · rw [List.isEmpty_iff.mp h]
    cases b <;> decide
  · rfl

/-- A trailer stays behind what is ahead. -/
lemma ahead_trailer (s : List Char) (b : Bool) : ahead (s ++ trailer b) = ahead s ++ trailer b := by
  unfold ahead
  rw [dropWhile_trailer]
  cases s.dropWhile Text.isBlank with
  | nil => cases b <;> rfl
  | cons c t =>
    rw [List.cons_append]
    split
    · next heq =>
      cases heq
      exact dropWhile_trailer t b
    · next hcomment =>
      split
      · next heq =>
        cases heq
        exact (hcomment _ rfl).elim
      · rfl

/-- A bracket or a hyphen that is ahead is none of the trailer. -/
lemma peekItem_trailer {flags : Flags} {s : List Char} (hs : s ≠ []) {c : Char}
    (hc : c = ']' ∨ c = '-') (b : Bool) :
    peekItem flags (s ++ trailer b) = some c ↔ peekItem flags s = some c := by
  obtain ⟨d, s, rfl⟩ := List.exists_cons_of_ne_nil hs
  by_cases hextended : flags.extended = true
  · rw [peekItem_extended hextended, peekItem_extended hextended, ahead_trailer]
    cases hahead : ahead (d :: s) with
    | cons e t => rfl
    | nil =>
      obtain ⟨e, t, htrailer, he⟩ := trailer_eq_cons b
      rw [htrailer]
      refine iff_of_false ?_ ?_
      · rintro heq
        obtain rfl : e = c := Option.some.inj heq
        rcases he with rfl | rfl <;> simp at hc
      · -- a bracket or a hyphen would be in front of what is ahead
        rintro heq
        obtain rfl : d = c := Option.some.inj heq
        rcases hc with rfl | rfl <;> simp [ahead, Text.isBlank] at hahead
  · simp [peekItem, hextended]

/-- Whether a hyphen is an item of its own is told by what comes behind it. -/
def isItem (flags : Flags) (s : List Char) : Bool :=
  peekItem flags s == some ']' || peekItem flags s == some '-'

/-- A trailer does not make a hyphen an item. -/
lemma Trails.isItem {flags : Flags} {s : List Char} {g : Bool → List Char} (h : Trails s g)
    (hs : s ≠ []) (b : Bool) : isItem flags (g b) = isItem flags s := by
  rcases h with h | ⟨rfl, -⟩
  · have hiff {c : Char} (hc : c = ']' ∨ c = '-') := @peekItem_trailer flags s hs c hc b
    rw [Pattern.isItem, Pattern.isItem, Bool.eq_iff_iff, h]
    simp only [Bool.or_eq_true, beq_iff_eq, hiff (.inl rfl), hiff (.inr rfl)]
  · exact absurd rfl hs

/-- A range is read in the same way with a trailer behind the text. -/
lemma steady_readRange (flags : Flags) : Steady (readRange flags) := by
  intro s rest x g h hg
  simp only [readRange, Option.bind_eq_bind, Option.bind_eq_some_iff] at h
  obtain ⟨⟨low, s₁⟩, hlow, h⟩ := h
  obtain ⟨g₁, hg₁, hlow⟩ := steady_readSetAtom flags hlow hg
  have ht := hg₁.skip flags
  simp only [readRange, Option.bind_eq_bind, hlow, Option.bind_some]
  generalize flags.skip s₁ = t at h ht
  split at h
  · next more =>
    have hmore : more ≠ [] := by
      rintro rfl
      cases hextended : flags.extended <;>
        simp [peekItem, hextended, Flags.skip, skipIgnored, readSetAtom] at h
    obtain ⟨u, hu, hcons⟩ := ht.cons
    have hfold (s : List Char) : (peekItem flags s == some ']' || peekItem flags s == some '-') =
        isItem flags s := rfl
    simp only [hcons, hfold] at h ⊢
    by_cases hitem : isItem flags more = true
    · rw [if_pos hitem] at h
      obtain ⟨piece, hpiece, h⟩ := Option.bind_eq_some_iff.mp h
      cases h
      refine ⟨_, ht, fun b => ?_⟩
      rw [if_pos ((hu.isItem hmore b).trans hitem), hpiece, Option.bind_some, hcons]
    · rw [if_neg hitem] at h
      simp only [Option.bind_eq_some_iff] at h
      obtain ⟨⟨high, s₂⟩, hhigh, lo, hlo, hi, hhi, _, hle, h⟩ := h
      cases h
      obtain ⟨g', hg', hhigh⟩ := steady_readSetAtom flags hhigh (hu.skip flags)
      refine ⟨g', hg', fun b => ?_⟩
      rw [if_neg fun hb => hitem ((hu.isItem hmore b).symm.trans hb)]
      simp only [hhigh, hlo, hhi, hle, Option.bind_some]
  · next hhyphen =>
    obtain ⟨piece, hpiece, h⟩ := Option.bind_eq_some_iff.mp h
    cases h
    refine ⟨_, ht, fun b => ?_⟩
    split
    · next hb => exact absurd hb (ht.ne_cons hhyphen (by decide) b _)
    · rw [hpiece]
      rfl

/-! ## Classes -/

/-- With a trailer behind the text and with more fuel, `s` is read to the end of a class in the same
way, where `rest` is left of it. -/
def SetTrails (flags : Flags) (n : Nat) (state : SetState) (piece : SetPiece) (rest : List Char)
    (g : Bool → List Char) : Prop :=
  ∃ g', Trails rest g' ∧ ∀ b m, n ≤ m → readSet flags m state (g b) = some (piece, g' b)

/-- The sign of an operation, which is written twice. -/
def SetOp.sign : SetOp → Char
  | .inter => '&'
  | .diff => '-'
  | .symmDiff => '~'

/-- An operator takes what was read for its left side. -/
lemma readSet_operator {flags : Flags} {op : SetOp} {s t : List Char} (n : Nat) (state : SetState)
    (h : flags.skip s = op.sign :: op.sign :: t) :
    readSet flags (n + 1) state s = readSet flags n (state.operate flags op) t := by
  cases op <;> simp only [readSet, h, SetOp.sign]

/-- A class goes on with an item where nothing else starts. -/
lemma readSet_item {flags : Flags} {s : List Char} (n : Nat) (state : SetState)
    (hnil : flags.skip s ≠ []) (hclose : ∀ t, flags.skip s ≠ ']' :: t)
    (hoperator : ∀ (op : SetOp) t, flags.skip s ≠ op.sign :: op.sign :: t)
    (hopen : ∀ t, flags.skip s ≠ '[' :: t) :
    readSet flags (n + 1) state s =
      (readRange flags (flags.skip s)).bind fun (piece, rest) =>
        readSet flags n (state.push piece) rest := by
  rw [readSet]
  split
  · next h => exact (hnil h).elim
  · next h => exact (hclose _ h).elim
  · next h => exact (hoperator .inter _ h).elim
  · next h => exact (hoperator .diff _ h).elim
  · next h => exact (hoperator .symmDiff _ h).elim
  · next h => exact (hopen _ h).elim
  · rfl

section Step

variable {flags : Flags} {n : Nat} {state : SetState} {s t rest : List Char} {piece : SetPiece}
  {g : Bool → List Char}
  (ih : ∀ {state : SetState} {s rest : List Char} {piece : SetPiece} {g : Bool → List Char},
    readSet flags n state s = some (piece, rest) → Trails s g →
      SetTrails flags n state piece rest g)

/-- Fuel is used up by each part of a class. -/
lemma SetTrails.of_succ {g' : Bool → List Char} (hg' : Trails rest g')
    (h : ∀ b m, n ≤ m → readSet flags (m + 1) state (g b) = some (piece, g' b)) :
    SetTrails flags (n + 1) state piece rest g := by
  refine ⟨g', hg', ?_⟩
  rintro b (_ | m) hm
  · omega
  · exact h b m (by omega)

/-- The closing bracket. -/
lemma setTrails_close (hs : flags.skip s = ']' :: t)
    (h : readSet flags (n + 1) state s = some (piece, rest)) (hg : Trails s g) :
    SetTrails flags (n + 1) state piece rest g := by
  have ht := hg.skip flags
  rw [hs] at ht
  obtain ⟨u, hu, hcons⟩ := ht.cons
  simp only [readSet, hs] at h
  obtain ⟨closed, hclosed, heq⟩ := Option.map_eq_some_iff.mp h
  cases heq
  refine .of_succ hu fun b m _ => ?_
  simp only [readSet, hcons, hclosed, Option.map_some]

include ih in
/-- An operator, and what is behind it. -/
lemma setTrails_operator {op : SetOp} (hs : flags.skip s = op.sign :: op.sign :: t)
    (h : readSet flags (n + 1) state s = some (piece, rest)) (hg : Trails s g) :
    SetTrails flags (n + 1) state piece rest g := by
  have ht := hg.skip flags
  rw [hs] at ht
  obtain ⟨u, hu, hcons⟩ := ht.cons
  obtain ⟨v, hv, hcons'⟩ := hu.cons
  rw [readSet_operator n state hs] at h
  obtain ⟨g', hg', hread⟩ := ih h hv
  refine .of_succ hg' fun b m hm => ?_
  rw [readSet_operator m state (by rw [hcons, hcons']), hread b m hm]

include ih in
/-- A class within the class, which is named or in brackets of its own, and what is behind it. -/
lemma setTrails_nested (hs : flags.skip s = '[' :: t)
    (h : readSet flags (n + 1) state s = some (piece, rest)) (hg : Trails s g) :
    SetTrails flags (n + 1) state piece rest g := by
  have ht := hg.skip flags
  rw [hs] at ht
  obtain ⟨u, hu, hcons⟩ := ht.cons
  simp only [readSet, hs] at h
  split at h
  · next hnamed =>
    simp only [Option.bind_eq_bind, Option.bind_eq_some_iff] at h
    obtain ⟨cls, hcls, h⟩ := h
    obtain ⟨v, hv, hnamed⟩ := hu.readNamedClass?_eq_some hnamed
    obtain ⟨g', hg', hread⟩ := ih h hv
    refine .of_succ hg' fun b m hm => ?_
    simp only [readSet, hcons, hnamed, hcls, Option.bind_eq_bind, Option.bind_some, hread b m hm]
  · next hnamed =>
    simp only [Option.bind_eq_bind, Option.bind_eq_some_iff] at h
    obtain ⟨⟨inner, s'⟩, hinner, h⟩ := h
    obtain ⟨g₁, hg₁, hopen⟩ := hu.openSet flags
    obtain ⟨g₂, hg₂, hread₁⟩ := ih hinner hg₁
    obtain ⟨g', hg', hread₂⟩ := ih h hg₂
    refine .of_succ hg' fun b m hm => ?_
    simp only [readSet, hcons, hu.readNamedClass?_eq_none hnamed b, hopen, hread₁ b m hm,
      Option.bind_eq_bind, Option.bind_some, hread₂ b m hm]

include ih in
/-- An item, and what is behind it. -/
lemma setTrails_item (hnil : flags.skip s ≠ []) (hclose : ∀ t, flags.skip s ≠ ']' :: t)
    (hoperator : ∀ (op : SetOp) t, flags.skip s ≠ op.sign :: op.sign :: t)
    (hopen : ∀ t, flags.skip s ≠ '[' :: t)
    (h : readSet flags (n + 1) state s = some (piece, rest)) (hg : Trails s g) :
    SetTrails flags (n + 1) state piece rest g := by
  have ht := hg.skip flags
  have hsign (op : SetOp) : op.sign ≠ ')' ∧ op.sign ≠ '$' := by cases op <;> decide
  rw [readSet_item n state hnil hclose hoperator hopen] at h
  obtain ⟨⟨item, s'⟩, hitem, h⟩ := Option.bind_eq_some_iff.mp h
  obtain ⟨u, hu, hrange⟩ := steady_readRange flags hitem ht
  obtain ⟨g', hg', hread⟩ := ih h hu
  refine .of_succ hg' fun b m hm => ?_
  rw [readSet_item m state (ht.ne_nil hnil b) (ht.ne_cons hclose (by decide) b)
    (fun op => ht.ne_cons_cons (hoperator op) (hsign op) (hsign op) b)
    (ht.ne_cons hopen (by decide) b), hrange, Option.bind_some]
  exact hread b m hm

end Step

/-- A class is read in the same way with more fuel and with a trailer behind the text.

**Proof sketch.** Induction on the fuel. A trailer neither closes a class nor completes one of its
operators, and what starts in another way is an item. -/
lemma readSet_trails (flags : Flags) (n : Nat) {state : SetState} {s rest : List Char}
    {piece : SetPiece} {g : Bool → List Char}
    (h : readSet flags n state s = some (piece, rest)) (hg : Trails s g) :
    SetTrails flags n state piece rest g := by
  induction n generalizing state s rest piece g with
  | zero => cases h
  | succ n ih =>
    by_cases hoperator : ∃ (op : SetOp) (t : List Char), flags.skip s = op.sign :: op.sign :: t
    · obtain ⟨op, t, hs⟩ := hoperator
      exact setTrails_operator ih hs h hg
    by_cases hopen : ∃ t, flags.skip s = '[' :: t
    · obtain ⟨t, hs⟩ := hopen
      exact setTrails_nested ih hs h hg
    by_cases hclose : ∃ t, flags.skip s = ']' :: t
    · obtain ⟨t, hs⟩ := hclose
      exact setTrails_close hs h hg
    simp only [not_exists] at hoperator hopen hclose
    refine setTrails_item ih (fun hnil => ?_) hclose hoperator hopen h hg
    simp only [readSet, hnil] at h
    cases h

/-- A class in brackets is read in the same way with a trailer behind the text. -/
lemma steady_readBracket (flags : Flags) : Steady (readBracket flags) := by
  intro s rest x g h hg
  obtain ⟨g₁, hg₁, hopen⟩ := hg.openSet flags
  obtain ⟨g', hg', hread⟩ := readSet_trails flags _ h hg₁
  refine ⟨g', hg', fun b => ?_⟩
  rw [readBracket, hopen]
  exact hread b _ (Nat.succ_le_succ (hg.length_le b))

end HttpAudit.Pattern
