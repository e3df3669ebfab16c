import HttpAudit.Json.Record
import HttpAudit.Proofs.Json.RoundTrip

set_option relaxedAutoImplicit false
set_option autoImplicit false

/-!
# Records are decoded

The text of a record is an object. Of its members some are fields, with texts that are read as their
values; any others may have whatever values the format has. A decoder that looks up the fields by
their names gets those that are there, once each, in whatever order they are and among whatever
other members.

## Main definitions

* `HttpAudit.Json.SpellsRecord` — the texts of records, with the names of their members.
* `HttpAudit.Json.taken` — the fields that have one of the given names.

## Main results

* `HttpAudit.Json.readFields_spelled` — the fields of a record are read, unless one stands twice.
* `HttpAudit.Json.SpellsRecord.decodeText?_eq` — the text of a record is decoded by its fields.
* `HttpAudit.Json.spellsRecord_render` — what is printed for fields is such a text.
-/

namespace HttpAudit.Json

/-! ## Spellings of records -/

/-- The texts of the value of a member. They are read as the value of a field if it is one, and may
be any values if not. -/
inductive SpellsValue (fields : List (String × Json)) : String → List Char → Prop
  /-- The value of a field. -/
  | field {f : String × Json} {v : List Char} (hf : f ∈ fields) (hv : ReadAs (maxDepth - 1) v f.2) :
      SpellsValue fields f.1 v
  /-- The value of any other member. -/
  | other {name : String} {v : List Char} (hname : hasName fields name = false) (hv : IsValue v) :
      SpellsValue fields name v

/-- The texts of a member: a spelling of its name and a text of its value. -/
inductive SpellsMember (fields : List (String × Json)) : String → List Char → Prop
  /-- There may be blanks around the colon. -/
  | parts {name : String} {k b b' v : List Char} (hk : SpellsText name.toList k) (hb : Blanks b)
      (hb' : Blanks b') (hv : SpellsValue fields name v) :
      SpellsMember fields name ('"' :: (k ++ '"' :: (b ++ ':' :: (b' ++ v))))

/-- The texts of an object whose members have the given names. -/
inductive SpellsRecord (fields : List (String × Json)) : List String → List Char → Prop
  /-- There is no member. -/
  | nil {b : List Char} (hb : Blanks b) : SpellsRecord fields [] ('{' :: (b ++ ['}']))
  /-- There are members. -/
  | members {names : List String} {t : List Char} (h : SpellsItems (SpellsMember fields) names t) :
      SpellsRecord fields names ('{' :: (t ++ ['}']))

/-! ## Fields that are found -/

/-- The fields with the given names, in the order of these. -/
def taken (fields : List (String × Json)) (names : List String) : List (String × Json) :=
  names.filterMap fun name => (fields.lookup name).map fun value => (name, value)

/-- The fields found with one more, which must not be among them. -/
def addField (found : List (String × Json)) (f : String × Json) : Option (List (String × Json)) :=
  if (found.lookup f.1).isSome then none else some (insert f.1 f.2 found)

/-- Fields are added one after the other if no two of them have the same name. -/
lemma foldlM_addField (found fs : List (String × Json)) :
    fs.foldlM addField found =
      if (fs.map Prod.fst).Nodup ∧ ∀ f ∈ fs, hasName found f.1 = false then
        some (fs.foldl (fun found f => insert f.1 f.2 found) found)
      else none := by
  induction fs generalizing found with
  | nil => rfl
  | cons f fs ih =>
    rw [List.foldlM_cons, addField, isSome_lookup]
    cases hf : hasName found f.1 with
    | true => simp [hf]
    | false =>
      -- What comes later must differ from this field as well as from those found before.
      have hiff : ((fs.map Prod.fst).Nodup ∧
          ∀ g ∈ fs, hasName (insert f.1 f.2 found) g.1 = false) ↔
            ((f :: fs).map Prod.fst).Nodup ∧ ∀ g ∈ f :: fs, hasName found g.1 = false := by
        simp only [List.map_cons, List.nodup_cons, List.forall_mem_cons, hf, hasName_insert,
          Bool.or_eq_false_iff, beq_eq_false_iff_ne, List.mem_map, not_exists, not_and]
        constructor
        · rintro ⟨hnodup, h⟩
          exact ⟨⟨fun g hg => (h g hg).1, hnodup⟩, trivial, fun g hg => (h g hg).2⟩
        · rintro ⟨⟨hother, hnodup⟩, -, h⟩
          exact ⟨hnodup, fun g hg => ⟨hother g hg, h g hg⟩⟩
      simp only [Bool.false_eq_true, if_false, Option.bind_eq_bind, Option.bind_some, ih,
        List.foldl_cons, hiff]

section Reading

variable {fields : List (String × Json)}

/-- A name that is none of the fields takes nothing. -/
lemma taken_singleton_of_not {name : String} (h : hasName fields name = false) :
    taken fields [name] = [] := by
  rw [← isSome_lookup, Option.isSome_eq_false_iff, Option.isNone_iff_eq_none] at h
  rw [taken, List.filterMap_cons, h]
  rfl

/-- The name of a field takes the field. -/
lemma taken_singleton_of_mem {f : String × Json} (hnodup : (fields.map Prod.fst).Nodup)
    (hf : f ∈ fields) : taken fields [f.1] = [f] := by
  have hname : hasName fields f.1 = true := hasName_of_mem hf
  have hlookup := (isPart_self fields).lookup hnodup hf
  rw [hname, if_pos rfl] at hlookup
  rw [taken, List.filterMap_cons, hlookup]
  rfl

/-- The names take the fields one after the other. -/
lemma taken_cons (name : String) (names : List String) :
    taken fields (name :: names) = taken fields [name] ++ taken fields names :=
  List.filterMap_append (l := [name])

/-- Blanks in front of a value are left out. -/
lemma readValue_append (fuel depth : Nat) {b : List Char} (hb : Blanks b) (t : List Char) :
    readValue fuel depth (b ++ t) = readValue fuel depth t := by
  cases fuel with
  | zero => rfl
  | succ fuel => rw [readValue, readValue, skipBlanks_append hb]

/-- The value of a member is read where its text is: if it is a field, it is added to those found,
and if not, it is skipped. -/
lemma SpellsValue.readField {name : String} {v : List Char} (h : SpellsValue fields name v)
    (hnodup : (fields.map Prod.fst).Nodup) {fuel : Nat} {b rest : List Char}
    (found : List (String × Json)) (hb : Blanks b) (hrest : Ends rest)
    (hfuel : 2 * v.length ≤ fuel) :
    readField (fields.map Prod.fst) fuel (maxDepth - 1) found name (b ++ (v ++ rest)) =
      ((taken fields [name]).foldlM addField found).map fun found => (found, rest) := by
  cases h with
  | @field f _ hf hv =>
    have hname : (fields.map Prod.fst).contains f.1 = true := hasName_of_mem hf
    rw [Json.readField, if_pos hname, taken_singleton_of_mem hnodup hf, readValue_append _ _ hb,
      hv hfuel hrest, List.foldlM_cons, addField]
    split_ifs <;> rfl
  | other hname hv =>
    rw [Json.readField, taken_singleton_of_not hname, hv.isSkipped hb hrest hfuel]
    exact if_neg (Bool.eq_false_iff.mp hname)

/-- A member is read, and then what stands behind the mark that follows. -/
lemma SpellsMember.readFields_member {name : String} {u : List Char}
    (h : SpellsMember fields name u) (hnodup : (fields.map Prod.fst).Nodup) {fuel : Nat}
    {b b' : List Char} (hb : Blanks b) (hb' : Blanks b') (hfuel : 2 * u.length ≤ fuel)
    (found : List (String × Json)) {mark : Char} (hmark : mark = ',' ∨ mark = '}')
    (rest : List Char) :
    readFields (fields.map Prod.fst) (fuel + 1) (maxDepth - 1) found
        (b ++ (u ++ (b' ++ mark :: rest))) =
      ((taken fields [name]).foldlM addField found).bind fun found =>
        if mark = ',' then readFields (fields.map Prod.fst) fuel (maxDepth - 1) found rest
        else some (found, rest) := by
  have hends : Ends (b' ++ mark :: rest) := hb'.ends_append (ends_mark hmark (ends_brace rest))
  cases h with
  | @parts k c c' v hk hc hc' hv =>
    simp only [List.length_cons, List.length_append] at hfuel
    have hvalue := hv.readField hnodup found hc' hends (by omega : _ ≤ fuel)
    have hsplit : b ++ ('"' :: (k ++ '"' :: (c ++ ':' :: (c' ++ v))) ++ (b' ++ mark :: rest)) =
        b ++ '"' :: (k ++ '"' :: (c ++ ':' :: (c' ++ (v ++ (b' ++ mark :: rest))))) := by simp
    rw [hsplit, readFields, skipBlanks_append_cons hb rfl]
    simp only [hk.readString_append, Option.bind_eq_bind, Option.bind_some,
      skipBlanks_append_cons hc (c := ':') rfl, String.ofList_toList, hvalue]
    cases (taken fields [name]).foldlM addField found with
    | none => rfl
    | some found =>
      rcases hmark with rfl | rfl
      · simp [skipBlanks_append_cons hb' (c := ',') rfl]
      · simp [skipBlanks_append_cons hb' (c := '}') rfl]

/-- The fields of a record are read and added to those found, unless one of them is found twice. -/
lemma readFields_spelled {names : List String} {t : List Char}
    (h : SpellsItems (SpellsMember fields) names t) (hnodup : (fields.map Prod.fst).Nodup)
    (found : List (String × Json)) (rest : List Char) {fuel : Nat} (hfuel : 2 * t.length < fuel) :
    readFields (fields.map Prod.fst) fuel (maxDepth - 1) found (t ++ '}' :: rest) =
      ((taken fields names).foldlM addField found).map fun found => (found, rest) := by
  induction h generalizing fuel found with
  | @single name b u b' hb hu hb' =>
    obtain ⟨fuel, rfl⟩ := Nat.exists_eq_succ_of_ne_zero (Nat.ne_zero_of_lt hfuel)
    simp only [List.length_append] at hfuel
    have hmember := hu.readFields_member hnodup hb hb' (by omega : _ ≤ fuel) found (.inr rfl) rest
    simp only [List.append_assoc]
    rw [hmember]
    cases (taken fields [name]).foldlM addField found <;> rfl
  | @cons name names b u b' t hb hu hb' _ ih =>
    obtain ⟨fuel, rfl⟩ := Nat.exists_eq_succ_of_ne_zero (Nat.ne_zero_of_lt hfuel)
    simp only [List.length_append, List.length_cons] at hfuel
    have hmember := hu.readFields_member hnodup hb hb' (by omega : _ ≤ fuel) found (.inl rfl)
      (t ++ '}' :: rest)
    simp only [List.append_assoc, List.cons_append]
    rw [hmember, taken_cons name names, List.foldlM_append]
    cases (taken fields [name]).foldlM addField found with
    | none => rfl
    | some found => exact ih found (by omega)

/-- Behind blanks there is a quotation mark where a member begins. -/
lemma exists_quote {names : List String} {t : List Char}
    (h : SpellsItems (SpellsMember fields) names t) :
    ∃ b v, Blanks b ∧ t = b ++ '"' :: v := by
  have hquote : ∀ {name : String} {u : List Char}, SpellsMember fields name u →
      ∃ v, u = '"' :: v := by
    rintro _ _ ⟨⟩
    exact ⟨_, rfl⟩
  cases h with
  | @single _ b u b' hb hu =>
    obtain ⟨v, rfl⟩ := hquote hu
    exact ⟨b, v ++ b', hb, by simp⟩
  | @cons _ _ b u b' t hb hu =>
    obtain ⟨v, rfl⟩ := hquote hu
    exact ⟨b, v ++ (b' ++ ',' :: t), hb, by simp⟩

/-- A record is read up to what follows it. -/
lemma SpellsRecord.exists_readRecord {names : List String} {t : List Char}
    (h : SpellsRecord fields names t) (hnodup : (fields.map Prod.fst).Nodup) :
    ∃ s, t = '{' :: s ∧ ∀ {fuel : Nat} (rest : List Char), 2 * s.length ≤ fuel →
      readRecord (fields.map Prod.fst) fuel (s ++ rest) =
        ((taken fields names).foldlM addField []).map fun found => (found, rest) := by
  cases h with
  | @nil b hb =>
    refine ⟨_, rfl, fun rest _ => ?_⟩
    rw [readRecord, List.append_assoc, List.singleton_append, skipBlanks_append_cons hb rfl]
    rfl
  | @members _ u hu =>
    refine ⟨_, rfl, fun {fuel} rest hfuel => ?_⟩
    rw [List.length_append, List.length_singleton] at hfuel
    have hread := readFields_spelled hu hnodup [] rest (by omega : 2 * u.length < fuel)
    obtain ⟨b, v, hb, hv⟩ := exists_quote hu
    have hhead : skipBlanks (u ++ ['}'] ++ rest) = '"' :: (v ++ ['}'] ++ rest) := by
      rw [hv, List.append_assoc, List.append_assoc, List.cons_append,
        skipBlanks_append_cons hb rfl, List.append_assoc]
    rw [readRecord, hhead]
    simpa using hread

/-- The names of the fields that are taken. -/
lemma map_fst_taken (fields : List (String × Json)) (names : List String) :
    (taken fields names).map Prod.fst = names.filter (hasName fields) := by
  induction names with
  | nil => rfl
  | cons name names ih =>
    rw [taken, List.filterMap_cons, ← taken]
    cases h : fields.lookup name with
    | none =>
      have hname : hasName fields name = false := by rw [← isSome_lookup, h]; rfl
      rw [List.filter_cons_of_neg (by simp [hname]), ← ih]
      rfl
    | some value =>
      have hname : hasName fields name = true := by rw [← isSome_lookup, h]; rfl
      rw [List.filter_cons_of_pos hname, ← ih]
      rfl

/-- The fields that are taken are put into an object, unless one of them is taken twice. -/
lemma foldlM_taken (fields : List (String × Json)) (names : List String) :
    (taken fields names).foldlM addField [] =
      if (names.filter (hasName fields)).Nodup then some (collect (taken fields names))
      else none := by
  have hnone : ∀ f ∈ taken fields names, hasName [] f.1 = false := fun _ _ => rfl
  rw [foldlM_addField, map_fst_taken, ← collect]
  exact if_congr (and_iff_left hnone) rfl rfl

/-- The text of a record is decoded by its fields, unless one of them stands twice. -/
lemma SpellsRecord.decodeText?_eq {α : Type} {names : List String} {b t b' : List Char}
    (h : SpellsRecord fields names t) (hnodup : (fields.map Prod.fst).Nodup) (hb : Blanks b)
    (hb' : Blanks b') (decode : Json → Option α) :
    decodeText? (fields.map Prod.fst) decode (.ofList (b ++ (t ++ b'))) =
      if (names.filter (hasName fields)).Nodup then
        decode (.object (collect (taken fields names)))
      else none := by
  obtain ⟨s, rfl, hread⟩ := h.exists_readRecord hnodup
  have hfuel : 2 * s.length ≤ 2 * (s ++ b').length + 1 := by
    rw [List.length_append]
    omega
  have hrecord := hread b' hfuel
  have hend : skipBlanks b' = [] := by
    rw [← List.append_nil b', skipBlanks_append hb']
    rfl
  rw [decodeText?, String.toList_ofList, List.cons_append, skipBlanks_append_cons hb rfl]
  simp only [hrecord, foldlM_taken]
  split_ifs
  · simp [hend]
  · rfl

/-- Exactly the fields whose names are there are found. -/
lemma lookup_collect_taken {names : List String} (hnodup : (fields.map Prod.fst).Nodup)
    (hnames : (names.filter (hasName fields)).Nodup) {f : String × Json} (hf : f ∈ fields) :
    (collect (taken fields names)).lookup f.1 = if names.contains f.1 then some f.2 else none := by
  have hname : ∀ m ∈ taken fields names, hasName fields m.1 = true := fun m hm => by
    have hmem := List.mem_map_of_mem (f := Prod.fst) hm
    rw [map_fst_taken] at hmem
    exact (List.mem_filter.mp hmem).2
  have hsubset : taken fields names ⊆ fields := fun m hm => by
    obtain ⟨name, -, h⟩ := List.mem_filterMap.mp hm
    obtain ⟨value, hvalue, rfl⟩ := Option.map_eq_some_iff.mp h
    obtain ⟨l₁, l₂, hsplit, -⟩ := List.lookup_eq_some_iff.mp hvalue
    simp [hsplit]
  have htaken : (taken fields names).Nodup :=
    List.Nodup.of_map Prod.fst (by rw [map_fst_taken]; exact hnames)
  have hpart : IsPart fields (taken fields names) := by
    rw [IsPart, List.filter_eq_self.mpr hname]
    exact htaken.subperm hsubset
  have hcontains : hasName (taken fields names) f.1 = names.contains f.1 := by
    have hfield : hasName fields f.1 = true := hasName_of_mem hf
    rw [hasName, map_fst_taken, Bool.eq_iff_iff, List.contains_iff_mem, List.contains_iff_mem,
      List.mem_filter, and_iff_left hfield]
  rw [lookup_collect, hpart.reverse.lookup hnodup hf, hasName_reverse, hcontains]

/-! ## The printed record -/

/-- What is printed for a field is the text of a member. -/
lemma spellsMember_render {f : String × Json} (hf : f ∈ fields)
    (h : ReadAs (maxDepth - 1) f.2.renderChars f.2) :
    SpellsMember fields f.1 (renderMembers [f]) := by
  have hmember := SpellsMember.parts (spellsText_flatMap_escape f.1.toList) blanks_nil blanks_nil
    (.field hf h)
  simpa [renderMembers, quote] using hmember

/-- What is printed for some fields is the text of members. -/
lemma spellsItems_renderMembers {fs : List (String × Json)} (hne : fs ≠ [])
    (hfs : ∀ f ∈ fs, f ∈ fields ∧ ReadAs (maxDepth - 1) f.2.renderChars f.2) :
    SpellsItems (SpellsMember fields) (fs.map Prod.fst) (renderMembers fs) := by
  induction fs with
  | nil => exact absurd rfl hne
  | cons f fs ih =>
    obtain ⟨⟨hf, hread⟩, hfs⟩ := List.forall_mem_cons.mp hfs
    have hmember := spellsMember_render hf hread
    by_cases hlast : fs = []
    · subst hlast
      simpa using SpellsItems.single blanks_nil hmember blanks_nil
    · rw [renderMembers_cons f hlast]
      simpa using SpellsItems.cons blanks_nil hmember blanks_nil (ih hlast hfs)

/-- What is printed for fields is the text of a record with all of them. -/
lemma spellsRecord_render (h : ∀ f ∈ fields, ReadAs (maxDepth - 1) f.2.renderChars f.2) :
    SpellsRecord fields (fields.map Prod.fst) (Json.object fields).renderChars := by
  by_cases hne : fields = []
  · subst hne
    exact .nil blanks_nil
  · exact .members (spellsItems_renderMembers hne fun f hf => ⟨hf, h f hf⟩)

end Reading

end HttpAudit.Json
