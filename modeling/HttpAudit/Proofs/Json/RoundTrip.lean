import HttpAudit.Proofs.Json.Members
import HttpAudit.Proofs.Json.Skip
import Mathlib.Data.Option.Basic

set_option relaxedAutoImplicit false
set_option autoImplicit false

/-!
# Values are read back

The text that is printed for a value without double precision numbers is read back as the value, if
it nests no deeper than is read. A number ends where no further digit stands, so what may follow a
value matters; where values stand in an array or an object it is a comma or the closing mark.

## Main definitions

* `HttpAudit.Json.Exact` — a value without double precision numbers, with a bound on its depth.
* `HttpAudit.Json.ReadAs` — a text is read as a value, whatever may follow it.

## Main results

* `HttpAudit.Json.readNumber_natural`, `HttpAudit.Json.readNumber_negative` — integers are read
  back.
* `HttpAudit.Json.Exact.readAs` — an exact value is read back.
-/

namespace HttpAudit.Json

/-! ## Exact values -/

/-- A value without double precision numbers, in which arrays and objects are nested at most `depth`
deep. Its integers fit into sixty-four bits, and the members of its objects are in the order of
their keys, each key once, as objects keep them. -/
inductive Exact : (depth : Nat) → Json → Prop
  /-- The value `null`. -/
  | null {depth : Nat} : Exact depth .null
  /-- A truth value. -/
  | bool {depth : Nat} (b : Bool) : Exact depth (.bool b)
  /-- An integer that is not negative. -/
  | natural {depth n : Nat} (h : n < wordLimit) : Exact depth (.number (.natural n))
  /-- A negative integer. -/
  | negative {depth n : Nat} (hpos : 1 ≤ n) (h : n ≤ Nat.pow 2 63) :
      Exact depth (.number (.negative n))
  /-- A text. -/
  | string {depth : Nat} (s : String) : Exact depth (.string s)
  /-- An array. -/
  | array {depth : Nat} {items : List Json} (h : ∀ j ∈ items, Exact depth j) :
      Exact (depth + 1) (.array items)
  /-- An object. -/
  | object {depth : Nat} {members : List (String × Json)}
      (hkeys : (members.map Prod.fst).Pairwise (· < ·)) (h : ∀ m ∈ members, Exact depth m.2) :
      Exact (depth + 1) (.object members)

/-- The bound on the depth may be greater. -/
lemma Exact.mono {depth depth' : Nat} {j : Json} (h : Exact depth j) (hle : depth ≤ depth') :
    Exact depth' j := by
  induction h generalizing depth' with
  | null => exact .null
  | bool b => exact .bool b
  | natural h => exact .natural h
  | negative hpos h => exact .negative hpos h
  | string s => exact .string s
  | array h ih =>
    obtain ⟨depth', rfl⟩ := Nat.exists_eq_succ_of_ne_zero (by omega : depth' ≠ 0)
    exact .array fun j hj => ih j hj (by omega)
  | object hkeys h ih =>
    obtain ⟨depth', rfl⟩ := Nat.exists_eq_succ_of_ne_zero (by omega : depth' ≠ 0)
    exact .object hkeys fun m hm => ih m hm (by omega)

/-! ## Numbers -/

/-- The value of a digit. -/
lemma digit?_of_isDigit {c : Char} (h : c.isDigit = true) :
    digit? c = some (c.toNat - '0'.toNat) := if_pos h

/-- Other characters have no value. -/
lemma digit?_of_not_isDigit {c : Char} (h : c.isDigit = false) : digit? c = none :=
  if_neg (Bool.eq_false_iff.mp h)

/-- The only digit with the value zero. -/
lemma eq_zero_of_isDigit {c : Char} (hc : c.isDigit = true) (h : c.toNat - '0'.toNat = 0) :
    c = '0' := by
  have h48 : ('0' : Char).toNat = 48 := rfl
  have h48' : (48 : UInt32).toNat = 48 := rfl
  simp only [Char.isDigit, Bool.and_eq_true, decide_eq_true_eq, ge_iff_le,
    UInt32.le_iff_toNat_le, Char.toNat_val] at hc
  exact Char.toNat_inj.mp (by omega)

/-- More digits give no smaller number. -/
lemma le_ofDigitChars (n : Nat) (ds : List Char) : n ≤ Nat.ofDigitChars 10 ds n := by
  induction ds generalizing n with
  | nil => exact Nat.le_refl n
  | cons c ds ih =>
    rw [Nat.ofDigitChars_cons]
    exact Nat.le_trans (by omega) (ih _)

/-- Digits of a number that fits are read to their end. -/
lemma readDigits_append {n : Nat} {ds rest : List Char} (hds : ∀ c ∈ ds, c.isDigit = true)
    (hfits : Nat.ofDigitChars 10 ds n < wordLimit) (hrest : Ends rest) :
    readDigits n (ds ++ rest) = (Nat.ofDigitChars 10 ds n, 0, rest) := by
  induction ds generalizing n with
  | nil =>
    cases rest with
    | nil => rfl
    | cons c t => rw [List.nil_append, readDigits, digit?_of_not_isDigit (hrest c rfl).1]; rfl
  | cons c ds ih =>
    obtain ⟨hc, hds⟩ := List.forall_mem_cons.mp hds
    rw [Nat.ofDigitChars_cons] at hfits ⊢
    have hle := le_ofDigitChars (10 * n + (c.toNat - '0'.toNat)) ds
    rw [List.cons_append, readDigits, digit?_of_isDigit hc]
    simp only [if_pos (Nat.lt_of_le_of_lt hle hfits)]
    exact ih hds hfits

/-- The digits of a number begin with a zero only if they are that one. -/
lemma exists_toDigits (n : Nat) :
    ∃ c ds, Nat.toDigits 10 n = c :: ds ∧ (c = '0' → n = 0 ∧ ds = []) := by
  induction n using Nat.strongRecOn with
  | ind n ih =>
    by_cases hn : n < 10
    · refine ⟨n.digitChar, [], Nat.toDigits_of_lt_base hn, fun hzero => ⟨?_, rfl⟩⟩
      have hall : ∀ m < 10, Nat.digitChar m = '0' → m = 0 := by decide
      exact hall n hn hzero
    · obtain ⟨c, ds, hds, hzero⟩ := ih (n / 10) (by omega)
      refine ⟨c, ds ++ [(n % 10).digitChar], ?_, fun hc => ?_⟩
      · rw [Nat.toDigits_of_base_le (by decide) (by omega), hds]
        rfl
      · have := (hzero hc).1
        omega

/-- The digits of a number that fits are read as the number. -/
lemma readUnsigned_toDigits (negative : Bool) {n : Nat} (h : n < wordLimit) {rest : List Char}
    (hrest : Ends rest) :
    readUnsigned negative (Nat.toDigits 10 n ++ rest) = some (ofInteger negative n, rest) := by
  obtain ⟨c, ds, hds, hzero⟩ := exists_toDigits n
  have hdigits : ∀ d ∈ c :: ds, d.isDigit = true := by
    rw [← hds]
    exact fun d hd => Nat.isDigit_of_mem_toDigits (by decide) (by decide) hd
  obtain ⟨hc, hrests⟩ := List.forall_mem_cons.mp hdigits
  have hvalue : Nat.ofDigitChars 10 ds (c.toNat - '0'.toNat) = n := by
    have hall : Nat.ofDigitChars 10 (c :: ds) 0 = n := by
      rw [← hds]
      exact Nat.ofDigitChars_toDigits (by decide) (by decide)
    rwa [Nat.ofDigitChars_cons, Nat.mul_zero, Nat.zero_add] at hall
  -- A leading zero is read alone, and any other digit with all that follow.
  have hread : (if (c.toNat - '0'.toNat) == 0 then (0, 0, ds ++ rest)
      else readDigits (c.toNat - '0'.toNat) (ds ++ rest)) = (n, 0, rest) := by
    split_ifs with hd
    · obtain ⟨rfl, rfl⟩ := hzero (eq_zero_of_isDigit hc (beq_iff_eq.mp hd))
      rfl
    · rw [readDigits_append hrests (by rw [hvalue]; exact h) hrest, hvalue]
  rw [hds, List.cons_append, readUnsigned]
  simp only [digit?_of_isDigit hc, Option.bind_eq_bind, Option.bind_some, hread]
  cases rest with
  | nil => rfl
  | cons c' t =>
    obtain ⟨hdigit, hpoint, he, hE⟩ := hrest c' rfl
    split
    · next heq => exact absurd (List.cons.inj heq).1 hpoint
    · next heq => exact absurd (List.cons.inj heq).1 hpoint
    · next heq =>
      obtain ⟨rfl, -⟩ := List.cons.inj heq
      simp [he, hE, hdigit]
    · next heq => cases heq

/-- The digits of a number begin with a digit. -/
lemma exists_toString (n : Nat) : ∃ c t, (toString n).toList = c :: t ∧ c.isDigit = true := by
  obtain ⟨c, ds, hds, -⟩ := exists_toDigits n
  have hmem : c ∈ Nat.toDigits 10 n := by
    rw [hds]
    exact List.mem_cons_self
  exact ⟨c, ds, by rw [Nat.toString_eq_repr, Nat.toList_repr, hds],
    Nat.isDigit_of_mem_toDigits (by decide) (by decide) hmem⟩

/-- An integer that is not negative is read back. -/
lemma readNumber_natural {n : Nat} (h : n < wordLimit) {rest : List Char} (hrest : Ends rest) :
    readNumber ((Number.natural n).render.toList ++ rest) = some (.natural n, rest) := by
  obtain ⟨c, t, ht, hc⟩ := exists_toString n
  have hread := readUnsigned_toDigits false h hrest
  rw [← Nat.toList_repr, ← Nat.toString_eq_repr] at hread
  rw [Number.render]
  rw [ht, List.cons_append] at hread ⊢
  rw [readNumber, hread]
  · rfl
  · rintro _ ⟨rfl, -⟩
    exact absurd hc (by decide)

/-- A negative integer has a sign in front. -/
lemma toList_render_negative (n : Nat) :
    (Number.negative n).render.toList = '-' :: (toString n).toList := by
  rw [Number.render, String.toList_append]
  rfl

/-- A negative integer is read back. -/
lemma readNumber_negative {n : Nat} (hpos : 1 ≤ n) (h : n ≤ Nat.pow 2 63) {rest : List Char}
    (hrest : Ends rest) :
    readNumber ((Number.negative n).render.toList ++ rest) = some (.negative n, rest) := by
  have hfits : n < wordLimit := Nat.lt_of_le_of_lt h (by decide)
  have hread := readUnsigned_toDigits true hfits hrest
  rw [← Nat.toList_repr, ← Nat.toString_eq_repr] at hread
  rw [toList_render_negative, List.cons_append, readNumber, hread]
  simp [ofInteger, hpos, h]

/-! ## Reading a value -/

/-- A text is read as a value at a depth, whatever may follow it. -/
def ReadAs (depth : Nat) (t : List Char) (j : Json) : Prop :=
  ∀ ⦃fuel : Nat⦄ ⦃rest : List Char⦄, 2 * t.length ≤ fuel → Ends rest →
    readValue fuel depth (t ++ rest) = some (j, rest)

/-- A text that is read as a value and stands alone is read. -/
lemma ReadAs.parse? {t : List Char} {j : Json} (h : ReadAs maxDepth t j) : parse? t = some j := by
  have hread : readValue (2 * t.length + 1) maxDepth (t ++ []) = some (j, []) :=
    h (Nat.le_succ _) ends_nil
  rw [List.append_nil] at hread
  rw [Json.parse?, hread]
  rfl

/-- A character that is no blank is not left out. -/
lemma skipBlanks_cons {c : Char} (hc : isBlank c = false) (t : List Char) :
    skipBlanks (c :: t) = c :: t := skipBlanks_append_cons blanks_nil hc t

/-- A text in quotation marks is read. -/
lemma readString_quote (s : String) (rest : List Char) :
    readString (s.toList.flatMap escape ++ '"' :: rest) = some (s.toList, rest) :=
  (spellsText_flatMap_escape s.toList).readString_append rest

/-- A text is read as a value if one step is enough for that. -/
lemma readAs_of_succ {depth : Nat} {t : List Char} {j : Json} (hne : t ≠ [])
    (h : ∀ fuel rest, Ends rest → readValue (fuel + 1) depth (t ++ rest) = some (j, rest)) :
    ReadAs depth t j := by
  intro fuel rest hfuel hrest
  have hpos := List.length_pos_iff.mpr hne
  obtain ⟨fuel, rfl⟩ := Nat.exists_eq_succ_of_ne_zero (by omega : fuel ≠ 0)
  exact h fuel rest hrest

/-- A text in quotation marks is read as a value. -/
lemma readAs_string (depth : Nat) (s : String) :
    ReadAs depth (renderChars (.string s)) (.string s) := by
  refine readAs_of_succ (List.cons_ne_nil _ _) fun fuel rest _ => ?_
  have htext : renderChars (.string s) ++ rest =
      '"' :: (s.toList.flatMap escape ++ '"' :: rest) := by
    simp [renderChars, quote]
  rw [htext, readValue, skipBlanks_cons (c := '"') rfl]
  simp [readString_quote]

/-- What begins like a number is read as one. -/
lemma readValue_number (fuel depth : Nat) {c : Char} (hc : BeginsNumber c) (t : List Char) :
    readValue (fuel + 1) depth (c :: t) =
      (readNumber (c :: t)).map fun (n, rest) => (.number n, rest) := by
  rw [readValue, skipBlanks_cons hc.isBlank]
  split
  case h_1 h => cases h
  case h_8 => rfl
  all_goals
    next h =>
      obtain ⟨rfl, -⟩ := List.cons.inj h
      exact absurd rfl (hc.ne rfl (by decide))

/-- A number is read as a value if its text is read as the number. -/
lemma readAs_number (depth : Nat) {n : Number} {c : Char} {t : List Char}
    (ht : n.render.toList = c :: t) (hc : BeginsNumber c)
    (hread : ∀ {rest : List Char}, Ends rest →
      readNumber (n.render.toList ++ rest) = some (n, rest)) :
    ReadAs depth (renderChars (.number n)) (.number n) := by
  have hne : renderChars (.number n) ≠ [] := by
    rw [renderChars, ht]
    exact List.cons_ne_nil c t
  refine readAs_of_succ hne fun fuel rest hrest => ?_
  have hnumber := hread hrest
  rw [renderChars, ht, List.cons_append]
  rw [ht, List.cons_append] at hnumber
  rw [readValue_number fuel depth hc, hnumber]
  rfl

/-! ## Arrays -/

/-- The text of an exact value begins with a character that can begin a value. -/
lemma Exact.exists_head {depth : Nat} {j : Json} (h : Exact depth j) :
    ∃ c t, j.renderChars = c :: t ∧ isBlank c = false ∧ c ≠ ']' := by
  cases h with
  | null => exact ⟨'n', _, rfl, rfl, by decide⟩
  | bool b => cases b <;> exact ⟨_, _, rfl, rfl, by decide⟩
  | @natural _ n h =>
    obtain ⟨c, t, ht, hc⟩ := exists_toString n
    have hbegins : BeginsNumber c := .inl hc
    exact ⟨c, t, ht, hbegins.isBlank, hbegins.ne rfl (by decide)⟩
  | negative hpos h => exact ⟨'-', _, toList_render_negative _, rfl, by decide⟩
  | string s => exact ⟨'"', _, rfl, rfl, by decide⟩
  | array h => exact ⟨'[', _, rfl, rfl, by decide⟩
  | object hkeys h => exact ⟨'{', _, rfl, rfl, by decide⟩

/-- Items that are read one by one are read with the closing bracket behind them. -/
lemma readItems_renderItems {depth : Nat} {items : List Json}
    (h : ∀ j ∈ items, ReadAs depth j.renderChars j) (hne : items ≠ []) (rest : List Char)
    {fuel : Nat} (hfuel : 2 * (renderItems items).length < fuel) :
    readItems fuel depth (renderItems items ++ ']' :: rest) = some (items, rest) := by
  induction items generalizing fuel with
  | nil => exact absurd rfl hne
  | cons j items ih =>
    obtain ⟨fuel, rfl⟩ := Nat.exists_eq_succ_of_ne_zero (Nat.ne_zero_of_lt hfuel)
    obtain ⟨hj, hitems⟩ := List.forall_mem_cons.mp h
    by_cases hlast : items = []
    · subst hlast
      rw [renderItems] at hfuel ⊢
      rw [readItems, hj (by omega) (ends_bracket rest)]
      simp only [skipBlanks_cons (c := ']') rfl]
    · rw [renderItems_cons _ hlast, List.length_append, List.length_cons] at hfuel
      have hlength : 2 * (renderItems items).length < fuel := by omega
      have hrest := ih hitems hlast hlength
      rw [renderItems_cons _ hlast, List.append_assoc, List.cons_append, readItems,
        hj (by omega) (ends_comma _)]
      simp only [skipBlanks_cons (c := ',') rfl, hrest, Option.map_some]

/-- The text of an array is read as the array, one level deeper than its items. -/
lemma readAs_array {depth : Nat} {items : List Json} (hexact : ∀ j ∈ items, Exact depth j)
    (h : ∀ j ∈ items, ReadAs depth j.renderChars j) :
    ReadAs (depth + 1) (renderChars (.array items)) (.array items) := by
  intro fuel rest hfuel hrest
  rw [renderChars, List.length_cons, List.length_append, List.length_singleton] at hfuel
  obtain ⟨fuel, rfl⟩ := Nat.exists_eq_succ_of_ne_zero (by omega : fuel ≠ 0)
  rw [renderChars, List.cons_append, List.append_assoc, List.singleton_append, readValue,
    skipBlanks_cons (c := '[') rfl]
  cases items with
  | nil =>
    simp only [renderItems, List.nil_append, skipBlanks_cons (c := ']') rfl]
  | cons j items =>
    have hlength : 2 * (renderItems (j :: items)).length < fuel := by omega
    have hitems := readItems_renderItems h (List.cons_ne_nil j items) rest hlength
    obtain ⟨c, t, ht, hblank, hbracket⟩ :
        ∃ c t, renderItems (j :: items) ++ ']' :: rest = c :: t ∧ isBlank c = false ∧ c ≠ ']' := by
      obtain ⟨c, t, ht, hc⟩ := (hexact j List.mem_cons_self).exists_head
      cases items with
      | nil => exact ⟨c, t ++ ']' :: rest, by rw [renderItems, ht]; rfl, hc⟩
      | cons j' items =>
        exact ⟨c, _, by rw [renderItems_cons _ (List.cons_ne_nil j' items), ht]; rfl, hc⟩
    rw [ht] at hitems ⊢
    simp only [skipBlanks_cons hblank]
    split
    · next h => exact absurd (List.cons.inj h).1 hbracket
    · rw [hitems]
      rfl

/-! ## Objects -/

/-- Members that are printed have commas between them. -/
lemma renderMembers_cons (m : String × Json) {members : List (String × Json)} (hne : members ≠ []) :
    renderMembers (m :: members) = renderMembers [m] ++ ',' :: renderMembers members := by
  rw [renderMembers, renderMembers]
  exact hne

/-- The text of a single member, with more behind it. -/
lemma renderMembers_singleton_append (m : String × Json) (rest : List Char) :
    renderMembers [m] ++ rest =
      '"' :: (m.1.toList.flatMap escape ++ '"' :: ':' :: (m.2.renderChars ++ rest)) := by
  simp [renderMembers, quote]

/-- A member is put into the object, and then those are that stand behind a comma. -/
lemma readMembers_member {fuel depth : Nat} {m : String × Json}
    (h : ReadAs depth m.2.renderChars m.2) (hfuel : 2 * (renderMembers [m]).length ≤ fuel)
    (found : List (String × Json)) {mark : Char} (hmark : mark = ',' ∨ mark = '}')
    (rest : List Char) :
    readMembers (fuel + 1) depth found (renderMembers [m] ++ mark :: rest) =
      if mark = ',' then readMembers fuel depth (insert m.1 m.2 found) rest
      else some (insert m.1 m.2 found, rest) := by
  have hlength : m.2.renderChars.length ≤ (renderMembers [m]).length := by
    rw [renderMembers, List.length_append, List.length_cons]
    omega
  have hvalue := h (by omega : _ ≤ fuel) (ends_mark hmark (ends_brace rest))
  rw [renderMembers_singleton_append, readMembers, skipBlanks_cons (c := '"') rfl]
  simp only [readString_quote, skipBlanks_cons (c := ':') rfl, hvalue, String.ofList_toList]
  rcases hmark with rfl | rfl
  · simp [skipBlanks_cons (c := ',') rfl]
  · simp [skipBlanks_cons (c := '}') rfl]

/-- Members that are read one by one are put into the object, and read with the closing brace behind
them. -/
lemma readMembers_renderMembers {depth : Nat} {members : List (String × Json)}
    (h : ∀ m ∈ members, ReadAs depth m.2.renderChars m.2) (hne : members ≠ [])
    (found : List (String × Json)) (rest : List Char) {fuel : Nat}
    (hfuel : 2 * (renderMembers members).length < fuel) :
    readMembers fuel depth found (renderMembers members ++ '}' :: rest) =
      some (members.foldl (fun found m => insert m.1 m.2 found) found, rest) := by
  induction members generalizing fuel found with
  | nil => exact absurd rfl hne
  | cons m members ih =>
    obtain ⟨fuel, rfl⟩ := Nat.exists_eq_succ_of_ne_zero (Nat.ne_zero_of_lt hfuel)
    obtain ⟨hm, hmembers⟩ := List.forall_mem_cons.mp h
    by_cases hlast : members = []
    · subst hlast
      exact readMembers_member hm (by omega) found (.inr rfl) rest
    · rw [renderMembers_cons m hlast, List.length_append, List.length_cons] at hfuel
      have hlength : 2 * (renderMembers members).length < fuel := by omega
      have hrest := ih hmembers hlast (insert m.1 m.2 found) hlength
      rw [renderMembers_cons m hlast, List.append_assoc, List.cons_append,
        readMembers_member hm (by omega) found (.inl rfl), if_pos rfl, hrest, List.foldl_cons]

/-- The text of an object is read as the object that its members are put into, one level deeper than
they are. -/
lemma readAs_object {depth : Nat} {members : List (String × Json)}
    (h : ∀ m ∈ members, ReadAs depth m.2.renderChars m.2) :
    ReadAs (depth + 1) (renderChars (.object members)) (.object (collect members)) := by
  intro fuel rest hfuel hrest
  rw [renderChars, List.length_cons, List.length_append, List.length_singleton] at hfuel
  obtain ⟨fuel, rfl⟩ := Nat.exists_eq_succ_of_ne_zero (by omega : fuel ≠ 0)
  rw [renderChars, List.cons_append, List.append_assoc, List.singleton_append, readValue,
    skipBlanks_cons (c := '{') rfl]
  cases members with
  | nil => simp only [renderMembers, List.nil_append, skipBlanks_cons (c := '}') rfl]; rfl
  | cons m members =>
    have hlength : 2 * (renderMembers (m :: members)).length < fuel := by omega
    have hread := readMembers_renderMembers h (List.cons_ne_nil m members) [] rest hlength
    obtain ⟨u, hu⟩ : ∃ u, renderMembers (m :: members) ++ '}' :: rest = '"' :: u := by
      cases members with
      | nil => exact ⟨_, rfl⟩
      | cons m' members => exact ⟨_, rfl⟩
    rw [hu] at hread ⊢
    simp only [skipBlanks_cons (c := '"') rfl]
    split
    · next h => exact absurd (List.cons.inj h).1 (by decide)
    · rw [hread]
      rfl

/-- **Values are read back.** The text of a value without double precision numbers is read as the
value at any depth that it does not exceed, whatever may follow it.

**Proof sketch.** Induction on the value. A number is read to its last digit, since what may follow
it is none; items and members are read up to the comma or the closing mark behind them; and members
in the order of their keys are put into an object as they are. -/
theorem Exact.readAs {depth : Nat} {j : Json} (h : Exact depth j) :
    ReadAs depth j.renderChars j := by
  induction h with
  | null => exact readAs_of_succ (List.cons_ne_nil _ _) fun _ _ _ => rfl
  | bool b => cases b <;> exact readAs_of_succ (List.cons_ne_nil _ _) fun _ _ _ => rfl
  | @natural depth n h =>
    obtain ⟨c, t, ht, hc⟩ := exists_toString n
    exact readAs_number (n := .natural n) depth ht (.inl hc) (readNumber_natural h)
  | @negative depth n hpos h =>
    exact readAs_number depth (toList_render_negative n) (.inr rfl) (readNumber_negative hpos h)
  | string s => exact readAs_string _ s
  | array hitems ih => exact readAs_array hitems ih
  | @object depth members hkeys h ih =>
    have hobject := readAs_object ih
    rwa [collect_eq_self hkeys] at hobject

end HttpAudit.Json
