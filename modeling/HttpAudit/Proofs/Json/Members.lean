import HttpAudit.Json.Value
import Mathlib.Data.List.Induction
import Mathlib.Data.List.Nodup
import Mathlib.Data.List.Perm.Subperm
import Mathlib.Data.String.Basic

set_option relaxedAutoImplicit false
set_option autoImplicit false

/-!
# The members of an object

The members of an object are put into it one after the other, in whatever order they come, and kept
in the order of their keys. Here it is shown what can be found in an object that some of a record's
fields were put into, in any order, together with members of other names.

## Main definitions

* `HttpAudit.Json.collect` — the members of an object that given ones are put into.
* `HttpAudit.Json.IsPart` — of the named fields of a record some are members, each once.

## Main results

* `HttpAudit.Json.lookup_collect` — of the members with a key the last one counts.
* `HttpAudit.Json.collect_eq_self` — members that are in order stay as they are.
* `HttpAudit.Json.IsPart.lookup` — exactly the fields that are members are found.
-/

namespace HttpAudit.Json

/-- The members of an object that the given ones are put into, from the first one to the last. -/
def collect (members : List (String × Json)) : List (String × Json) :=
  members.foldl (fun found m => insert m.1 m.2 found) []

/-- Whether there is a member with a name. -/
def hasName (members : List (String × Json)) (name : String) : Bool :=
  (members.map Prod.fst).contains name

/-! ## Putting members into an object -/

/-- What is found with one more member in front. -/
lemma lookup_cons_eq (name : String) (m : String × Json) (members : List (String × Json)) :
    (m :: members).lookup name = if name = m.1 then some m.2 else members.lookup name := by
  rw [List.lookup_cons]
  split
  · next h => rw [if_pos (beq_iff_eq.mp h)]
  · next h => rw [if_neg (beq_eq_false_iff_ne.mp h)]

/-- A member has a name that is there. -/
lemma hasName_of_mem {members : List (String × Json)} {m : String × Json} (h : m ∈ members) :
    hasName members m.1 = true :=
  List.contains_iff_mem.mpr (List.mem_map_of_mem h)

/-- What has a name can be looked up. -/
lemma isSome_lookup (members : List (String × Json)) (name : String) :
    (members.lookup name).isSome = hasName members name := by
  induction members with
  | nil => rfl
  | cons m members ih =>
    rw [lookup_cons_eq, hasName, List.map_cons, List.contains_cons]
    split
    · next h => simp [h]
    · next h => rw [ih, hasName, beq_eq_false_iff_ne.mpr h, Bool.false_or]

/-- What is found after a member has been put into an object. -/
lemma lookup_insert (key name : String) (value : Json) (members : List (String × Json)) :
    (insert key value members).lookup name =
      if name = key then some value else members.lookup name := by
  induction members with
  | nil => rw [insert, lookup_cons_eq]
  | cons m members ih =>
    obtain ⟨k, v⟩ := m
    rw [insert]
    split
    · rw [lookup_cons_eq]
    · split
      · next hsame =>
        subst hsame
        rw [lookup_cons_eq, lookup_cons_eq]
        split_ifs <;> rfl
      · next hother =>
        rw [lookup_cons_eq, lookup_cons_eq, ih]
        -- The name cannot be both the one that is passed over and the one that is put in.
        split_ifs with hname hkey
        · exact absurd (hkey.symm.trans hname) hother
        · rfl
        · rfl
        · rfl

/-- What has a name once a member has been put in. -/
lemma hasName_insert (key name : String) (value : Json) (members : List (String × Json)) :
    hasName (insert key value members) name = (name == key || hasName members name) := by
  rw [← isSome_lookup, ← isSome_lookup, lookup_insert]
  split
  · next h => simp [h]
  · next h => rw [beq_eq_false_iff_ne.mpr h, Bool.false_or]

/-- Of the members with a key the last one counts. -/
lemma lookup_collect (name : String) (members : List (String × Json)) :
    (collect members).lookup name = members.reverse.lookup name := by
  suffices h : ∀ found : List (String × Json),
      (members.foldl (fun found m => insert m.1 m.2 found) found).lookup name =
        (members.reverse.lookup name).or (found.lookup name) by
    simpa [collect] using h []
  induction members with
  | nil => exact fun _ => rfl
  | cons m members ih =>
    intro found
    rw [List.foldl_cons, ih, lookup_insert, List.reverse_cons, List.lookup_append, Option.or_assoc,
      lookup_cons_eq]
    split_ifs <;> rfl

/-- A member whose key comes after all others is put at the end. -/
lemma insert_eq_concat {key : String} {members : List (String × Json)}
    (h : ∀ m ∈ members, m.1 < key) (value : Json) :
    insert key value members = members ++ [(key, value)] := by
  induction members with
  | nil => rfl
  | cons m members ih =>
    obtain ⟨hm, hmembers⟩ := List.forall_mem_cons.mp h
    rw [insert, if_neg (String.lt_asymm hm), if_neg (ne_of_gt hm), ih hmembers]
    rfl

/-- Members whose keys are in order, each key once, stay as they are. -/
lemma collect_eq_self {members : List (String × Json)}
    (h : (members.map Prod.fst).Pairwise (· < ·)) : collect members = members := by
  induction members using List.reverseRecOn with
  | nil => rfl
  | append_singleton members m ih =>
    rw [List.map_append, List.pairwise_append] at h
    obtain ⟨hmembers, -, hlast⟩ := h
    have hbefore : ∀ m' ∈ members, m'.1 < m.1 := fun m' hm' =>
      hlast m'.1 (List.mem_map_of_mem hm') m.1 List.mem_cons_self
    rw [collect, List.foldl_concat, ← collect, ih hmembers, insert_eq_concat hbefore]

/-! ## Fields among members -/

/-- Of the fields of a record some are members, each once and in any order; any other member has
another name. -/
def IsPart (fields members : List (String × Json)) : Prop :=
  (members.filter fun m => hasName fields m.1).Subperm fields

variable {fields members : List (String × Json)}

/-- The fields of a record are part of it. -/
lemma isPart_self (fields : List (String × Json)) : IsPart fields fields := by
  rw [IsPart, List.filter_eq_self.mpr fun f hf => hasName_of_mem hf]

/-- The order of the members does not matter. -/
lemma IsPart.reverse (h : IsPart fields members) : IsPart fields members.reverse :=
  ((members.reverse_perm.filter _).subperm).trans h

/-- The names do not depend on the order of the members. -/
lemma hasName_reverse (members : List (String × Json)) :
    hasName members.reverse = hasName members := by
  funext name
  simp [hasName, List.map_reverse]

/-- Of two fields with the same name both are the same. -/
lemma eq_of_nodup {name : String} {v w : Json} (h : (fields.map Prod.fst).Nodup)
    (hv : (name, v) ∈ fields) (hw : (name, w) ∈ fields) : v = w := by
  have hinj := List.inj_on_of_nodup_map h hv hw rfl
  exact congrArg Prod.snd hinj

/-- Exactly the fields of which there is a member are found. -/
lemma IsPart.lookup (h : IsPart fields members) (hnodup : (fields.map Prod.fst).Nodup)
    {f : String × Json} (hf : f ∈ fields) :
    members.lookup f.1 = if hasName members f.1 then some f.2 else none := by
  obtain ⟨name, value⟩ := f
  cases hlookup : members.lookup name with
  | none =>
    have hnot : name ∉ members.map Prod.fst := by
      intro hmem
      obtain ⟨m, hm, rfl⟩ := List.mem_map.mp hmem
      simpa using List.lookup_eq_none_iff.mp hlookup m hm
    rw [hasName, if_neg (by simpa using hnot)]
  | some found =>
    obtain ⟨l₁, l₂, hsplit, -⟩ := List.lookup_eq_some_iff.mp hlookup
    have hmem : (name, found) ∈ members := by simp [hsplit]
    have hname : hasName members name = true := hasName_of_mem hmem
    have hfield : hasName fields name = true := hasName_of_mem hf
    have hpart : (name, found) ∈ fields := h.subset (List.mem_filter.mpr ⟨hmem, hfield⟩)
    rw [hname, if_pos rfl, eq_of_nodup hnodup hpart hf]

end HttpAudit.Json
