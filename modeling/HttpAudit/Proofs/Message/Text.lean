import HttpAudit.Message.Basic
import HttpAudit.Proofs.Json.Array

set_option relaxedAutoImplicit false
set_option autoImplicit false

/-!
# The text of a message

A message travels as an array of pairs of texts. It is read from every spelling of such an array,
and printed in the one that is compact; so a text that travels is read back as the message it was
printed for, whatever characters there are in it.

## Main definitions

* `HttpAudit.Message.Spells` — the texts that spell a message.

## Main results

* `HttpAudit.Message.ofJson?_eq_some_iff` — a message is read from its spellings, and from nothing
  else.
* `HttpAudit.Message.ofJson?_toJson` — the text of a message is read back as the message.
* `HttpAudit.Message.toJson_injective` — messages with the same text are the same.
* `HttpAudit.Message.toJson_unique_compact` — of all texts of a message, it travels as the compact
  one.
-/

namespace HttpAudit.Message

/-- The texts that spell a field: arrays of a name and a value, in quotation marks. -/
def SpellsField (field : String × String) : List Char → Prop :=
  Json.SpellsArray Json.SpellsQuoted [field.1, field.2]

/-- The texts that spell a message: arrays of its fields, with blanks around them. -/
def Spells (m : Message) (t : List Char) : Prop :=
  ∃ b u b', Json.Blanks b ∧ Json.SpellsArray SpellsField m.fields u ∧ Json.Blanks b' ∧
    t = b ++ (u ++ b')

/-! ## Messages and values -/

/-- A field as a JSON value. -/
def fieldJson (field : String × String) : Json := .array ([field.1, field.2].map .string)

/-- A value denotes a field if it is an array of two texts. -/
lemma fieldOfJson?_eq_some_iff {j : Json} {field : String × String} :
    fieldOfJson? j = some field ↔ j = fieldJson field := by
  constructor
  · intro h
    unfold fieldOfJson? at h
    split at h
    case h_1 name value =>
      obtain rfl := Option.some.inj h
      rfl
    case h_2 => cases h
  · rintro rfl
    rfl

/-- Values denote fields if each of them does. -/
lemma fieldsOfJson?_eq_some_iff {items : List Json} {fields : List (String × String)} :
    fieldsOfJson? items = some fields ↔ items = fields.map fieldJson := by
  induction items generalizing fields with
  | nil => cases fields <;> simp [fieldsOfJson?]
  | cons item items ih =>
    cases fields with
    | nil => simp [fieldsOfJson?, Option.bind_eq_some_iff]
    | cons field fields =>
      simp [fieldsOfJson?, Option.bind_eq_some_iff, fieldOfJson?_eq_some_iff, ih]

/-- A text denotes a message if it denotes the value of that message. -/
lemma ofJson?_eq_some_iff_parse? {t : String} {m : Message} :
    ofJson? t = some m ↔ Json.parse? t.toList = some (.array (m.fields.map fieldJson)) := by
  constructor
  · intro h
    unfold ofJson? at h
    split at h
    case h_1 items hparse =>
      obtain ⟨fields, hfields, rfl⟩ := Option.map_eq_some_iff.mp h
      rw [hparse, fieldsOfJson?_eq_some_iff.mp hfields]
    case h_2 => cases h
  · intro h
    rw [ofJson?, h]
    exact congrArg (Option.map mk) (fieldsOfJson?_eq_some_iff.mpr rfl)

/-! ## Spellings of a message -/

/-- Fields are read from their spellings, at any depth that leaves room for the texts. -/
lemma reads_field (depth : Nat) : Json.Reads (depth + 1) fieldJson SpellsField :=
  (Json.reads_quoted depth).array.comap fun field : String × String => [field.1, field.2]

/-- Fields are printed in their compact spelling. -/
lemma prints_field : Json.Prints fieldJson SpellsField :=
  Json.prints_quoted.array.comap fun field : String × String => [field.1, field.2]

/-- **Reading a message.** A message is read from its spellings, and from nothing else.

**Proof sketch.** A text is read up to the quotation mark that ends it, so by induction on the
fields each of them is read up to the bracket that ends it, and what stands between two of them
shows whether there is another one. An array of arrays is not too deep to be read. -/
theorem ofJson?_eq_some_iff {t : String} {m : Message} : ofJson? t = some m ↔ m.Spells t.toList :=
  ofJson?_eq_some_iff_parse?.trans (reads_field 125).array.parse?_eq_some_iff

/-- The text of a message spells it. -/
lemma spells_toJson (m : Message) : m.Spells m.toJson.toList :=
  ⟨[], _, [], Json.blanks_nil, prints_field.array.spells m.fields, Json.blanks_nil, by
    rw [toJson, Json.render, String.toList_ofList, List.append_nil, List.nil_append]
    rfl⟩

/-- The text of a message is read back as the message. -/
theorem ofJson?_toJson (m : Message) : ofJson? m.toJson = some m :=
  ofJson?_eq_some_iff.mpr m.spells_toJson

/-- The text of a message determines it. -/
theorem toJson_injective {m m' : Message} (h : m.toJson = m'.toJson) : m = m' := by
  have hread : some m = some m' := by rw [← ofJson?_toJson m, h, ofJson?_toJson]
  exact Option.some.inj hread

/-- No text that spells a message is shorter than the one that is printed. -/
lemma Spells.length_le {m : Message} {t : String} (h : m.Spells t.toList) :
    m.toJson.length ≤ t.length := by
  obtain ⟨b, u, b', -, hu, -, ht⟩ := h
  have hlength := prints_field.array.length_le hu
  rw [toJson, Json.render, ← String.length_toList, ← String.length_toList, ht,
    String.toList_ofList, List.length_append, List.length_append]
  exact Nat.le_trans hlength (by omega)

/-- No other text that spells a message is compact. -/
lemma Spells.eq_of_isCompact {m : Message} {t : String} (h : m.Spells t.toList)
    (hcompact : Json.isCompact t = true) : t = m.toJson := by
  obtain ⟨b, u, b', hb, hu, hb', ht⟩ := h
  rw [Json.isCompact, ht] at hcompact
  obtain rfl := hb.eq_nil_of_isCompactFrom hcompact
  obtain ⟨rfl, hrest⟩ := prints_field.array.eq_of_isCompactFrom hu hcompact
  obtain rfl : b' = [] := by
    refine hb'.eq_nil_of_isCompactFrom (t := []) ?_
    rwa [List.append_nil]
  apply String.toList_inj.mp
  rw [ht, toJson, Json.render, String.toList_ofList, List.append_nil, List.nil_append]
  rfl

/-- **A message travels unharmed, in one compact text.** Every message is read back from the text
that is printed for it. A text is read as a message exactly if it spells the message as an array of
pairs, whatever blanks and escapes there are. Of all the texts that are read as a message the
printed one is compact, no other is, and none is shorter; so two of them have the same printed text
exactly if they have the same fields.

**Proof sketch.** A character is read from each of its spellings, and each but the printed one is a
pair of surrogates, an escaped slash, or an escape of four digits for a character that has a shorter
one or with capital letters; none of these is compact. This carries over from characters to texts,
from texts to fields and from fields to messages, by induction on what each is a list of. -/
theorem toJson_unique_compact :
    (∀ m : Message, ofJson? m.toJson = some m) ∧
      (∀ (t : String) (m : Message), ofJson? t = some m ↔ m.Spells t.toList) ∧
      (∀ (t : String) (m : Message), ofJson? t = some m →
        Json.isCompact m.toJson = true ∧ m.toJson.length ≤ t.length ∧
          (Json.isCompact t = true ↔ t = m.toJson)) ∧
      ∀ (t t' : String) (m m' : Message), ofJson? t = some m → ofJson? t' = some m' →
        (m.toJson = m'.toJson ↔ m.fields = m'.fields) := by
  refine ⟨ofJson?_toJson, fun _ _ => ofJson?_eq_some_iff, fun t m h => ?_, fun t t' m m' _ _ => ?_⟩
  · have hspells := ofJson?_eq_some_iff.mp h
    refine ⟨Json.isCompact_render m.json, hspells.length_le, hspells.eq_of_isCompact, ?_⟩
    rintro rfl
    exact Json.isCompact_render m.json
  · constructor
    · intro h
      rw [toJson_injective h]
    · intro h
      obtain rfl : m = m' := congrArg mk h
      rfl

/-- A text with blanks, an escaped slash, two surrogates and a capital digit is read as a message,
and so is a compact one, which is therefore printed for it. -/
theorem toJson_unique_compact_surrogates :
    ofJson? " [ [\"\\u0041\\/\\n\" ,\"\\uD83D\\ude00\\u001F\"]\n] " = some ⟨[("A/\n", "😀\x1f")]⟩ ∧
      Json.isCompact " [ [\"\\u0041\\/\\n\" ,\"\\uD83D\\ude00\\u001F\"]\n] " = false ∧
      ofJson? "[[\"A/\\n\",\"😀\\u001f\"]]" = some ⟨[("A/\n", "😀\x1f")]⟩ ∧
      Json.isCompact "[[\"A/\\n\",\"😀\\u001f\"]]" = true ∧
      toJson ⟨[("A/\n", "😀\x1f")]⟩ = "[[\"A/\\n\",\"😀\\u001f\"]]" := by
  have hread : ofJson? "[[\"A/\\n\",\"😀\\u001f\"]]" = some ⟨[("A/\n", "😀\x1f")]⟩ := by
    decide +kernel
  have hcompact : Json.isCompact "[[\"A/\\n\",\"😀\\u001f\"]]" = true := by decide +kernel
  refine ⟨by decide +kernel, by decide +kernel, hread, hcompact, ?_⟩
  exact ((toJson_unique_compact.2.2.1 _ _ hread).2.2.mp hcompact).symm

end HttpAudit.Message
