import HttpAudit.Proofs.Json.Compact

set_option relaxedAutoImplicit false
set_option autoImplicit false

/-!
# Spellings of arrays

An array may be spelled with blanks around its items. Given how each item is spelled and that it is
read from its spellings alone, so is the array; given that one spelling of each item is compact and
none is shorter, so it is for the array. So both hold of arrays of arrays of texts, to any depth
that is read.

## Main definitions

* `HttpAudit.Json.SpellsQuoted`, `HttpAudit.Json.SpellsArray` — the spellings of a text in quotation
  marks and of an array.
* `HttpAudit.Json.Reads` — values are read from their spellings, and from nothing else.
* `HttpAudit.Json.Prints` — the printed spelling is the compact one, and none is shorter.

## Main results

* `HttpAudit.Json.reads_quoted`, `HttpAudit.Json.Reads.array` — texts and arrays are read from their
  spellings.
* `HttpAudit.Json.prints_quoted`, `HttpAudit.Json.Prints.array` — texts and arrays are printed in
  their compact spelling.
-/

namespace HttpAudit.Json

/-! ## Blanks -/

/-- There are only blanks. -/
def Blanks (b : List Char) : Prop := ∀ c ∈ b, isBlank c = true

/-- There are no blanks. -/
lemma blanks_nil : Blanks [] := List.forall_mem_nil _

/-- Blanks one after the other are blanks. -/
lemma Blanks.append {b b' : List Char} (hb : Blanks b) (hb' : Blanks b') : Blanks (b ++ b') :=
  List.forall_mem_append.mpr ⟨hb, hb'⟩

/-- Blanks are left out. -/
lemma skipBlanks_append {b : List Char} (hb : Blanks b) (t : List Char) :
    skipBlanks (b ++ t) = skipBlanks t := by
  induction b with
  | nil => rfl
  | cons c b ih =>
    exact (if_pos (hb c List.mem_cons_self)).trans (ih fun c hc => hb c (List.mem_cons_of_mem _ hc))

/-- Nothing is left out from a character on that is no blank. -/
lemma skipBlanks_append_cons {b : List Char} (hb : Blanks b) {c : Char} (hc : isBlank c = false)
    (t : List Char) : skipBlanks (b ++ c :: t) = c :: t :=
  (skipBlanks_append hb _).trans (if_neg (Bool.eq_false_iff.mp hc))

/-- What is left out are blanks. -/
lemma exists_eq_append_skipBlanks (s : List Char) : ∃ b, Blanks b ∧ s = b ++ skipBlanks s := by
  induction s with
  | nil => exact ⟨[], blanks_nil, rfl⟩
  | cons c s ih =>
    rw [skipBlanks]
    split_ifs with hc
    · obtain ⟨b, hb, heq⟩ := ih
      exact ⟨c :: b, List.forall_mem_cons.mpr ⟨hc, hb⟩, congrArg (c :: ·) heq⟩
    · exact ⟨[], blanks_nil, rfl⟩

/-! ## Spellings -/

/-- The ways to spell a text in quotation marks. -/
def SpellsQuoted (s : String) (t : List Char) : Prop :=
  ∃ u, SpellsText s.toList u ∧ t = '"' :: (u ++ ['"'])

/-- The ways to spell the items of an array, given those to spell one: there may be blanks around
each, and there are commas between them. -/
inductive SpellsItems {α : Type} (R : α → List Char → Prop) : List α → List Char → Prop
  /-- The last item. -/
  | single {a : α} {b u b' : List Char} (hb : Blanks b) (hu : R a u) (hb' : Blanks b') :
      SpellsItems R [a] (b ++ u ++ b')
  /-- One more item in front. -/
  | cons {a : α} {as : List α} {b u b' t : List Char} (hb : Blanks b) (hu : R a u) (hb' : Blanks b')
      (ht : SpellsItems R as t) : SpellsItems R (a :: as) (b ++ u ++ b' ++ ',' :: t)

/-- The ways to spell an array, given those to spell its items. -/
inductive SpellsArray {α : Type} (R : α → List Char → Prop) : List α → List Char → Prop
  /-- There is no item. -/
  | nil {b : List Char} (hb : Blanks b) : SpellsArray R [] ('[' :: (b ++ [']']))
  /-- There are items. -/
  | items {as : List α} {u : List Char} (hu : SpellsItems R as u) :
      SpellsArray R as ('[' :: (u ++ [']']))

/-- Items may have more blanks in front. -/
lemma SpellsItems.blanks_append {α : Type} {R : α → List Char → Prop} {as : List α}
    {b t : List Char}
    (h : SpellsItems R as t) (hb : Blanks b) : SpellsItems R as (b ++ t) := by
  cases h with
  | single hb₁ hu hb₂ => simpa using SpellsItems.single (hb.append hb₁) hu hb₂
  | cons hb₁ hu hb₂ ht => simpa using SpellsItems.cons (hb.append hb₁) hu hb₂ ht

/-! ## Reading -/

/-- What a value has been read from, if it is a text or an array. -/
def IsReadFrom (depth : Nat) (t rest : List Char) : Json → Prop
  | .string s => ∃ b t', Blanks b ∧ t = b ++ '"' :: t' ∧ readString t' = some (s.toList, rest)
  | .array items => ∃ b b' t', Blanks b ∧ Blanks b' ∧ t = b ++ '[' :: (b' ++ t') ∧
      (items = [] ∧ t' = ']' :: rest ∨
        ∃ fuel depth', depth = depth' + 1 ∧ readItems fuel depth' t' = some (items, rest))
  | _ => True

/-- What a value is read from. -/
lemma isReadFrom_of_readValue {fuel depth : Nat} {t rest : List Char} {j : Json}
    (h : readValue fuel depth t = some (j, rest)) : IsReadFrom depth t rest j := by
  cases fuel with
  | zero => cases h
  | succ fuel =>
    obtain ⟨b, hb, ht⟩ := exists_eq_append_skipBlanks t
    rw [readValue] at h
    -- The cases are the characters that a value can begin with.
    split at h
    case h_1 => cases h
    case h_2 t' hquote =>
      obtain ⟨⟨s, r⟩, hread, heq⟩ := Option.map_eq_some_iff.mp h
      cases heq
      exact ⟨b, t', hb, hquote ▸ ht, by rw [String.toList_ofList, hread]⟩
    case h_3 | h_4 | h_5 =>
      obtain ⟨-, heq⟩ := Option.ite_none_right_eq_some.mp h
      cases heq
      trivial
    case h_6 t' hbracket =>
      obtain ⟨b', hb', ht'⟩ := exists_eq_append_skipBlanks t'
      cases depth with
      | zero => cases h
      | succ depth =>
        dsimp only at h
        split at h
        case h_1 r hclose =>
          cases h
          exact ⟨b, b', _, hb, hb', by rw [← ht', ← hbracket]; exact ht, .inl ⟨rfl, hclose⟩⟩
        case h_2 =>
          obtain ⟨⟨items, r⟩, hread, heq⟩ := Option.map_eq_some_iff.mp h
          cases heq
          exact ⟨b, b', _, hb, hb', by rw [← ht', ← hbracket]; exact ht,
            .inr ⟨fuel, depth, rfl, hread⟩⟩
    case h_7 t' hbrace =>
      cases depth with
      | zero => cases h
      | succ depth =>
        dsimp only at h
        split at h
        case h_1 =>
          cases h
          trivial
        case h_2 =>
          obtain ⟨⟨members, r⟩, -, heq⟩ := Option.map_eq_some_iff.mp h
          cases heq
          trivial
    case h_8 =>
      obtain ⟨⟨n, r⟩, -, heq⟩ := Option.map_eq_some_iff.mp h
      cases heq
      trivial

/-- Values are read, at the given depth, from their spellings behind blanks, and from nothing else.
-/
structure Reads {α : Type} (depth : Nat) (value : α → Json) (R : α → List Char → Prop) : Prop where
  /-- What is read as a value is a spelling of it. -/
  sound : ∀ {fuel : Nat} {a : α} {t rest : List Char},
    readValue fuel depth t = some (value a, rest) → ∃ b u, Blanks b ∧ R a u ∧ t = b ++ (u ++ rest)
  /-- A spelling is read as the value. -/
  complete : ∀ {fuel : Nat} {a : α} {b u : List Char} (rest : List Char), Blanks b → R a u →
    2 * u.length ≤ fuel → readValue fuel depth (b ++ (u ++ rest)) = some (value a, rest)
  /-- A spelling begins with a character that can begin a value. -/
  head : ∀ {a : α} {u : List Char}, R a u → ∃ c v, u = c :: v ∧ isBlank c = false ∧ c ≠ ']'

/-- Texts in quotation marks are read from their spellings. -/
lemma reads_quoted (depth : Nat) : Reads depth .string SpellsQuoted where
  sound {fuel s t rest} h := by
    obtain ⟨b, t', hb, rfl, hread⟩ := isReadFrom_of_readValue h
    obtain ⟨u, hu, rfl⟩ := readString_eq_some_iff.mp hread
    exact ⟨b, _, hb, ⟨u, hu, rfl⟩, by simp⟩
  complete {fuel s b u} rest hb hu hfuel := by
    obtain ⟨v, hv, rfl⟩ := hu
    cases fuel with
    | zero => simp at hfuel
    | succ fuel =>
      have hread := hv.readString_append rest
      rw [readValue, List.cons_append, skipBlanks_append_cons hb rfl]
      simp [hread]
  head {s u} hu := by
    obtain ⟨v, -, rfl⟩ := hu
    exact ⟨'"', _, rfl, rfl, by decide⟩

/-- Items that are read are not none. -/
lemma readItems_ne_nil {fuel depth : Nat} {t rest : List Char} :
    readItems fuel depth t ≠ some ([], rest) := by
  cases fuel with
  | zero => rintro ⟨⟩
  | succ fuel =>
    intro h
    rw [readItems] at h
    split at h
    case h_1 => cases h
    case h_2 =>
      split at h
      case h_1 => cases h
      case h_2 =>
        obtain ⟨_, -, heq⟩ := Option.map_eq_some_iff.mp h
        cases heq
      case h_3 => cases h

section Items

variable {α : Type} {depth : Nat} {value : α → Json} {R : α → List Char → Prop}

/-- What is read as items is a spelling of them. -/
lemma Reads.items_sound (h : Reads depth value R) {fuel : Nat} {as : List α} {t rest : List Char}
    (hread : readItems fuel depth t = some (as.map value, rest)) (hne : as ≠ []) :
    ∃ u, SpellsItems R as u ∧ t = u ++ ']' :: rest := by
  induction as generalizing fuel t with
  | nil => exact absurd rfl hne
  | cons a as ih =>
    cases fuel with
    | zero => cases hread
    | succ fuel =>
      rw [readItems] at hread
      split at hread
      case h_1 => cases hread
      case h_2 item r hitem =>
        obtain ⟨b', hb', hr⟩ := exists_eq_append_skipBlanks r
        split at hread
        case h_1 r' hclose =>
          obtain ⟨hitems, rfl⟩ := Prod.mk.inj (Option.some.inj hread)
          obtain ⟨rfl, hnil⟩ := List.cons.inj hitems
          obtain rfl := List.map_eq_nil_iff.mp hnil.symm
          obtain ⟨b, u, hb, hu, rfl⟩ := h.sound hitem
          exact ⟨_, .single hb hu hb', by rw [hr, hclose]; simp⟩
        case h_2 r' hcomma =>
          obtain ⟨⟨items, r''⟩, hrest, heq⟩ := Option.map_eq_some_iff.mp hread
          obtain ⟨hitems, rfl⟩ := Prod.mk.inj heq
          obtain ⟨rfl, rfl⟩ := List.cons.inj hitems
          obtain ⟨b, u, hb, hu, rfl⟩ := h.sound hitem
          -- Behind a comma there is another item.
          have hne' : as ≠ [] := by
            rintro rfl
            exact readItems_ne_nil hrest
          obtain ⟨v, hv, rfl⟩ := ih hrest hne'
          exact ⟨_, .cons hb hu hb' hv, by rw [hr, hcomma]; simp⟩
        case h_3 => cases hread

/-- A spelling of items is read as the items. -/
lemma Reads.items_complete (h : Reads depth value R) {fuel : Nat} {as : List α} {u : List Char}
    (rest : List Char) (hu : SpellsItems R as u) (hfuel : 2 * u.length < fuel) :
    readItems fuel depth (u ++ ']' :: rest) = some (as.map value, rest) := by
  induction hu generalizing fuel with
  | @single a b u b' hb hu hb' =>
    cases fuel with
    | zero => exact absurd hfuel (Nat.not_lt_zero _)
    | succ fuel =>
      have hitem : readValue fuel depth (b ++ (u ++ (b' ++ ']' :: rest))) =
          some (value a, b' ++ ']' :: rest) :=
        h.complete _ hb hu (by simp at hfuel; omega)
      have hsplit : b ++ u ++ b' ++ ']' :: rest = b ++ (u ++ (b' ++ ']' :: rest)) := by simp
      rw [hsplit, readItems, hitem]
      simp [skipBlanks_append_cons hb' (c := ']') rfl]
  | @cons a as b u b' t hb hu hb' ht ih =>
    cases fuel with
    | zero => exact absurd hfuel (Nat.not_lt_zero _)
    | succ fuel =>
      have hitem : readValue fuel depth (b ++ (u ++ (b' ++ ',' :: (t ++ ']' :: rest)))) =
          some (value a, b' ++ ',' :: (t ++ ']' :: rest)) :=
        h.complete _ hb hu (by simp at hfuel; omega)
      have hrest : readItems fuel depth (t ++ ']' :: rest) = some (as.map value, rest) :=
        ih (by simp at hfuel; omega)
      have hsplit : b ++ u ++ b' ++ ',' :: t ++ ']' :: rest =
          b ++ (u ++ (b' ++ ',' :: (t ++ ']' :: rest))) := by simp
      rw [hsplit, readItems, hitem]
      simp [skipBlanks_append_cons hb' (c := ',') rfl, hrest]

/-- Items begin, behind blanks, with a character that can begin a value. -/
lemma SpellsItems.exists_head {as : List α} {t : List Char} (ht : SpellsItems R as t)
    (h : Reads depth value R) :
    ∃ b c v, Blanks b ∧ t = b ++ c :: v ∧ isBlank c = false ∧ c ≠ ']' ∧
      SpellsItems R as (c :: v) := by
  cases ht with
  | @single a b u b' hb hu hb' =>
    obtain ⟨c, v, rfl, hblank, hbracket⟩ := h.head hu
    exact ⟨b, c, v ++ b', hb, by simp, hblank, hbracket, .single blanks_nil hu hb'⟩
  | @cons a as b u b' t hb hu hb' ht =>
    obtain ⟨c, v, rfl, hblank, hbracket⟩ := h.head hu
    have hrest := SpellsItems.cons blanks_nil hu hb' ht
    exact ⟨b, c, v ++ b' ++ ',' :: t, hb, by simp, hblank, hbracket, by simpa using hrest⟩

/-- Arrays are read from their spellings, one level deeper than their items. -/
lemma Reads.array (h : Reads depth value R) :
    Reads (depth + 1) (fun as => .array (as.map value)) (SpellsArray R) where
  sound {fuel as t rest} hread := by
    obtain ⟨b, b', t', hb, hb', rfl, hitems⟩ := isReadFrom_of_readValue hread
    rcases hitems with ⟨hnil, rfl⟩ | ⟨fuel', depth', hdepth, hitems⟩
    · obtain rfl := List.map_eq_nil_iff.mp hnil
      exact ⟨b, _, hb, .nil hb', by simp⟩
    · obtain rfl : depth = depth' := Nat.succ.inj hdepth
      have hne : as ≠ [] := by
        rintro rfl
        exact readItems_ne_nil hitems
      obtain ⟨u, hu, rfl⟩ := h.items_sound hitems hne
      exact ⟨b, _, hb, .items (hu.blanks_append hb'), by simp⟩
  complete {fuel as b u} rest hb hu hfuel := by
    cases fuel with
    | zero => cases hu <;> simp at hfuel
    | succ fuel =>
      cases hu with
      | @nil b' hb' =>
        rw [readValue, List.cons_append, skipBlanks_append_cons hb rfl]
        simp [skipBlanks_append_cons hb' (c := ']') rfl]
      | @items as u hu =>
        obtain ⟨b', c, v, hb', rfl, hblank, hbracket, hv⟩ := hu.exists_head h
        have hitems : readItems fuel depth (c :: (v ++ ']' :: rest)) = some (as.map value, rest) :=
          h.items_complete rest hv (by simp at hfuel ⊢; omega)
        rw [readValue, List.cons_append, skipBlanks_append_cons hb rfl]
        simp [skipBlanks_append_cons hb' hblank, hbracket, hitems]
  head {as u} hu := by
    cases hu with
    | nil => exact ⟨'[', _, rfl, rfl, by decide⟩
    | items => exact ⟨'[', _, rfl, rfl, by decide⟩

/-- Values are read from their spellings, whatever they are made of. -/
lemma Reads.comap (h : Reads depth value R) {β : Type} (f : β → α) :
    Reads depth (fun b => value (f b)) (fun b => R (f b)) where
  sound := h.sound
  complete := h.complete
  head := h.head

/-- A text that is read as a whole may have blanks around it. -/
lemma Reads.parse?_eq_some_iff (h : Reads maxDepth value R) {t : List Char} {a : α} :
    parse? t = some (value a) ↔
      ∃ b u b', Blanks b ∧ R a u ∧ Blanks b' ∧ t = b ++ (u ++ b') := by
  constructor
  · intro hparse
    rw [parse?] at hparse
    split at hparse
    case h_1 j rest hread =>
      obtain ⟨hrest, heq⟩ := Option.ite_none_right_eq_some.mp hparse
      obtain rfl := Option.some.inj heq
      obtain ⟨b, u, hb, hu, rfl⟩ := h.sound hread
      obtain ⟨b', hb', heq'⟩ := exists_eq_append_skipBlanks rest
      rw [List.isEmpty_iff.mp hrest, List.append_nil] at heq'
      exact ⟨b, u, b', hb, hu, hb', by rw [heq']⟩
    case h_2 => cases hparse
  · rintro ⟨b, u, b', hb, hu, hb', rfl⟩
    have hread : readValue (2 * (b ++ (u ++ b')).length + 1) maxDepth (b ++ (u ++ b')) =
        some (value a, b') := h.complete b' hb hu (by simp; omega)
    have hrest : skipBlanks b' = [] := by
      rw [← List.append_nil b', skipBlanks_append hb']
      rfl
    rw [parse?, hread]
    simp [hrest]

end Items

/-! ## Printing -/

/-- What is printed is the compact spelling of a value, and none is shorter. -/
structure Prints {α : Type} (value : α → Json) (R : α → List Char → Prop) : Prop where
  /-- What is printed is a spelling. -/
  spells : ∀ a, R a (value a).renderChars
  /-- No spelling is shorter than what is printed. -/
  length_le : ∀ {a : α} {u : List Char}, R a u → (value a).renderChars.length ≤ u.length
  /-- No other spelling is compact. -/
  eq_of_isCompactFrom : ∀ {a : α} {u t : List Char}, R a u → isCompactFrom false (u ++ t) = true →
    u = (value a).renderChars ∧ isCompactFrom false t = true

/-- There are no blanks where it is compact outside of quotation marks. -/
lemma Blanks.eq_nil_of_isCompactFrom {b t : List Char} (hb : Blanks b)
    (h : isCompactFrom false (b ++ t) = true) : b = [] := by
  cases b with
  | nil => rfl
  | cons c b =>
    have hblank := hb c List.mem_cons_self
    rw [List.cons_append, isCompactFrom_outside, hblank] at h
    cases h

/-- Texts are printed in quotation marks. -/
lemma prints_quoted : Prints .string SpellsQuoted where
  spells s := ⟨_, spellsText_flatMap_escape s.toList, rfl⟩
  length_le {s u} hu := by
    obtain ⟨v, hv, rfl⟩ := hu
    simpa [renderChars, quote] using hv.length_le
  eq_of_isCompactFrom {s u t} hu h := by
    obtain ⟨v, hv, rfl⟩ := hu
    have hinside : isCompactFrom true (v ++ '"' :: t) = true := by
      simpa [isCompactFrom_outside, isBlank] using h
    obtain ⟨rfl, ht⟩ := hv.eq_of_isCompactFrom hinside
    exact ⟨rfl, ht⟩

section Items

variable {α : Type} {value : α → Json} {R : α → List Char → Prop}

/-- Items that are printed have commas between them. -/
lemma renderItems_cons (j : Json) {items : List Json} (hne : items ≠ []) :
    renderItems (j :: items) = j.renderChars ++ ',' :: renderItems items := by
  cases items with
  | nil => exact absurd rfl hne
  | cons j' items => rfl

/-- There is an item. -/
lemma SpellsItems.ne_nil {as : List α} {u : List Char} (h : SpellsItems R as u) : as ≠ [] := by
  cases h <;> exact List.cons_ne_nil _ _

/-- What is printed for items is a spelling of them. -/
lemma Prints.spellsItems (h : Prints value R) {as : List α} (hne : as ≠ []) :
    SpellsItems R as (renderItems (as.map value)) := by
  induction as with
  | nil => exact absurd rfl hne
  | cons a as ih =>
    cases as with
    | nil => simpa [renderItems] using SpellsItems.single blanks_nil (h.spells a) blanks_nil
    | cons a' as =>
      rw [List.map_cons, renderItems_cons _ (by simp)]
      simpa using SpellsItems.cons blanks_nil (h.spells a) blanks_nil (ih (by simp))

/-- No spelling of items is shorter than what is printed. -/
lemma Prints.items_length_le (h : Prints value R) {as : List α} {u : List Char}
    (hu : SpellsItems R as u) : (renderItems (as.map value)).length ≤ u.length := by
  induction hu with
  | single hb hu hb' =>
    have := h.length_le hu
    simp [renderItems]
    omega
  | cons hb hu hb' ht ih =>
    have := h.length_le hu
    rw [List.map_cons, renderItems_cons _ (by simpa using ht.ne_nil)]
    simp
    omega

/-- No other spelling of items is compact. -/
lemma Prints.items_eq_of_isCompactFrom (h : Prints value R) {as : List α} {u t : List Char}
    (hu : SpellsItems R as u) (hcompact : isCompactFrom false (u ++ t) = true) :
    u = renderItems (as.map value) ∧ isCompactFrom false t = true := by
  induction hu with
  | @single a b u b' hb hu hb' =>
    rw [List.append_assoc, List.append_assoc] at hcompact
    obtain rfl := hb.eq_nil_of_isCompactFrom hcompact
    obtain ⟨rfl, hrest⟩ := h.eq_of_isCompactFrom hu hcompact
    obtain rfl := hb'.eq_nil_of_isCompactFrom hrest
    exact ⟨by simp [renderItems], hrest⟩
  | @cons a as b u b' v hb hu hb' hv ih =>
    have hsplit : b ++ u ++ b' ++ ',' :: v ++ t = b ++ (u ++ (b' ++ ',' :: (v ++ t))) := by simp
    rw [hsplit] at hcompact
    obtain rfl := hb.eq_nil_of_isCompactFrom hcompact
    obtain ⟨rfl, hrest⟩ := h.eq_of_isCompactFrom hu hcompact
    obtain rfl := hb'.eq_nil_of_isCompactFrom hrest
    obtain ⟨rfl, ht⟩ := ih hrest
    exact ⟨by rw [List.map_cons, renderItems_cons _ (by simpa using hv.ne_nil)]; simp, ht⟩

/-- Values are printed in their compact spelling, whatever they are made of. -/
lemma Prints.comap (h : Prints value R) {β : Type} (f : β → α) :
    Prints (fun b => value (f b)) (fun b => R (f b)) where
  spells b := h.spells (f b)
  length_le := h.length_le
  eq_of_isCompactFrom := h.eq_of_isCompactFrom

/-- Arrays are printed without blanks. -/
lemma Prints.array (h : Prints value R) :
    Prints (fun as => .array (as.map value)) (SpellsArray R) where
  spells as := by
    cases as with
    | nil => exact .nil blanks_nil
    | cons a as => exact .items (h.spellsItems (by simp))
  length_le {as u} hu := by
    cases hu with
    | nil => simp [renderChars, renderItems]
    | items hu => simpa [renderChars] using h.items_length_le hu
  eq_of_isCompactFrom {as u t} hu hcompact := by
    cases hu with
    | @nil b hb =>
      have hinside : isCompactFrom false (b ++ ']' :: t) = true := by
        rwa [List.cons_append, isCompactFrom_mark rfl (by decide), List.append_assoc] at hcompact
      obtain rfl := hb.eq_nil_of_isCompactFrom hinside
      exact ⟨rfl, hinside⟩
    | @items as u hu =>
      have hinside : isCompactFrom false (u ++ ']' :: t) = true := by
        rwa [List.cons_append, isCompactFrom_mark rfl (by decide), List.append_assoc] at hcompact
      obtain ⟨rfl, ht⟩ := h.items_eq_of_isCompactFrom hu hinside
      exact ⟨rfl, ht⟩

end Items

end HttpAudit.Json
