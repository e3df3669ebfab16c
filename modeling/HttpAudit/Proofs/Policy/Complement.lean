import HttpAudit.Proofs.Pattern.Departure
import HttpAudit.Proofs.Policy.Compilation
import HttpAudit.Proofs.Policy.Strict

set_option relaxedAutoImplicit false
set_option autoImplicit false

/-!
# What the strict policy keeps

The rule of the strict policy that removes fields lists the ways to depart from the names that are
to be kept: one list for the user agent of a request, and three for the two headers of a response,
which have a start in common. So on one line it is about all names but those that are to be kept.

## Main definitions

* `HttpAudit.Strict.IsKept` — the names of the fields that are to be kept.
* `HttpAudit.Strict.outcome` — what becomes of a field.

## Main results

* `HttpAudit.Strict.removal_inScope_iff` — the removal is about all names but those that are to be
  kept.
* `HttpAudit.Strict.apply_include_strict` — the strict rules keep what they are to keep.
-/

namespace HttpAudit.Strict

open Pattern Pattern.Syntax

/-! ## The names that are removed -/

/-- The ways to depart from the names of the two headers of a response that are kept. -/
def contentDepartures : List Syntax :=
  departures 12 [] "content-".toList ++
    departure 20 "content-".toList (.union (.single 'l') (.single 't')) ::
      (departures 21 "content-l".toList "ength".toList ++
        departures 26 "content-t".toList "ype".toList)

/-- The pattern for the names that are removed, without its anchors. -/
def removed : Syntax :=
  .choice [.sequence (plain "request_body".toList), .sequence (plain "response_body".toList),
    .sequence (plain "request_param:".toList ++ [dots]),
    .sequence (plain "request_header:".toList ++
      [.loop 0 (some 1) true (.group 2 (.choice (departures 2 [] "user-agent".toList)))]),
    .sequence (plain "response_header:".toList ++
      [.loop 0 (some 1) true (.group 12 (.choice contentDepartures))])]

set_option maxRecDepth 8000 in
/-- The pattern for the names that are removed. -/
lemma removal_node :
    removal.scope.map Pattern.node =
      some (.cat (.assert .startText) (.cat (.group 1 removed.node) (.assert .endText))) := by
  delta removal Canned.strictRemoved removed contentDepartures
  repeat rewrite [String.toList_append]
  repeat rewrite [String.toList_ofList]
  rfl

/-- The removal is about the names that the pattern matches as a whole. -/
lemma removal_inScope_iff_exhausts {name : String} :
    removal.inScope name = true ↔ removed.Exhausts [] name.toList := by
  obtain ⟨p, hp, hnode⟩ := Option.map_eq_some_iff.mp removal_node
  rw [Rule.inScope, hp]
  refine (isMatch_iff_fits hnode).trans ⟨?_, fun h => ?_⟩
  · rintro ⟨q, _ | _ | _ | _ | ⟨ha, hb⟩⟩
    cases hb with
    | assert hend =>
      have hbody := spans_group_iff.mp ha
      obtain rfl := hbody.eq_of_rest_eq_nil (by simpa [Assertion.holds] using hend)
      exact hbody
  · exact ⟨_, .cat (.group h) (.assert rfl)⟩

/-- The ways to depart from the two names match what starts with neither. -/
lemma exhausts_contentDepartures_iff {before s : List Char} (hs : '\n' ∉ s) :
    (∃ a ∈ contentDepartures, a.Exhausts before s) ↔
      s ≠ [] ∧ ¬"content-length".toList <+: s ∧ ¬"content-type".toList <+: s := by
  have hlength : "content-l".toList ++ "ength".toList = "content-length".toList := by decide
  have htype : "content-t".toList ++ "ype".toList = "content-type".toList := by decide
  have hl : "content-".toList ++ ['l'] = "content-l".toList := by decide
  have ht : "content-".toList ++ ['t'] = "content-t".toList := by decide
  -- the departures from the common start, and from both ways to go on
  have hstart : "content-l".toList <+: s ∨ "content-t".toList <+: s → "content-".toList <+: s := by
    rw [← hl, ← ht]
    rintro (h | h) <;> exact (List.prefix_append _ _).trans h
  have hlengthStart : "content-length".toList <+: s → "content-l".toList <+: s := by
    rw [← hlength]
    exact (List.prefix_append _ _).trans
  have htypeStart : "content-type".toList <+: s → "content-t".toList <+: s := by
    rw [← htype]
    exact (List.prefix_append _ _).trans
  have hone : ¬("content-l".toList <+: s ∧ "content-t".toList <+: s) := by
    rintro ⟨h, h'⟩
    have hsame := List.prefix_of_prefix_length_le h h' (by decide)
    revert hsame
    decide
  have hclass : (∀ c : Char, (CharClass.union (.single 'l') (.single 't')).contains c.toNat = true →
      ¬"content-".toList ++ [c] <+: s) ↔ ¬"content-l".toList <+: s ∧ ¬"content-t".toList <+: s := by
    simp only [CharClass.contains, contains_single, Bool.or_eq_true, beq_iff_eq, or_imp, forall_and,
      forall_eq, hl, ht]
  simp only [contentDepartures, List.mem_append, List.mem_cons, or_and_right, exists_or,
    exists_eq_left, exhausts_departures_iff hs, exhausts_departure_iff hs, hclass, hlength, htype,
    List.nil_append, List.nil_prefix, true_and]
  have hne : "content-".toList <+: s → s ≠ [] := by
    rintro h rfl
    simp at h
  generalize ("content-".toList <+: s) = start at hstart hne ⊢
  generalize ("content-l".toList <+: s) = l at hstart hlengthStart hone ⊢
  generalize ("content-t".toList <+: s) = t at hstart htypeStart hone ⊢
  generalize ("content-length".toList <+: s) = length at hlengthStart ⊢
  generalize ("content-type".toList <+: s) = type at htypeStart ⊢
  clear hs hlength htype hl ht hclass
  tauto

section Headers

variable {before s : List Char} (hs : '\n' ∉ s)

include hs

/-- Parameters are removed. -/
lemma exhausts_param_iff :
    (Syntax.sequence (plain "request_param:".toList ++ [dots])).Exhausts before s ↔
      "request_param:".toList <+: s := by
  rw [exhausts_plain_append_iff]
  constructor
  · rintro ⟨t, rfl, -⟩
    exact List.prefix_append _ t
  · rintro ⟨t, rfl⟩
    exact ⟨t, rfl, exhausts_dots_iff.mpr fun ht => hs (List.mem_append_right _ ht)⟩

/-- Headers of a request are removed unless they start like the user agent. -/
lemma exhausts_request_iff :
    (Syntax.sequence (plain "request_header:".toList ++ [.loop 0 (some 1) true
        (.group 2 (.choice (departures 2 [] "user-agent".toList)))])).Exhausts before s ↔
      "request_header:".toList <+: s ∧ ¬"request_header:user-agent".toList <+: s := by
  have hname : "request_header:".toList ++ "user-agent".toList =
      "request_header:user-agent".toList := by decide
  rw [exhausts_optional_choice_iff (by decide), ← hname]
  constructor
  · rintro ⟨t, rfl, hmatch⟩
    rw [exhausts_departures_iff fun ht => hs (List.mem_append_right _ ht)] at hmatch
    refine ⟨List.prefix_append _ t, ?_⟩
    rw [List.prefix_append_right_inj]
    rcases hmatch with rfl | ⟨-, -, hdeparts⟩
    · decide
    · exact hdeparts
  · rintro ⟨⟨t, rfl⟩, hdeparts⟩
    rw [List.prefix_append_right_inj] at hdeparts
    refine ⟨t, rfl, ?_⟩
    rw [exhausts_departures_iff fun ht => hs (List.mem_append_right _ ht)]
    by_cases hnil : t = []
    · exact .inl hnil
    · exact .inr ⟨List.nil_prefix, hnil, hdeparts⟩

/-- Headers of a response are removed unless they start like the length or the type of the
content. -/
lemma exhausts_response_iff :
    (Syntax.sequence (plain "response_header:".toList ++ [.loop 0 (some 1) true
        (.group 12 (.choice contentDepartures))])).Exhausts before s ↔
      "response_header:".toList <+: s ∧ ¬"response_header:content-length".toList <+: s ∧
        ¬"response_header:content-type".toList <+: s := by
  have hlength : "response_header:".toList ++ "content-length".toList =
      "response_header:content-length".toList := by decide
  have htype : "response_header:".toList ++ "content-type".toList =
      "response_header:content-type".toList := by decide
  have hne : contentDepartures ≠ [] := by simp [contentDepartures]
  rw [exhausts_optional_choice_iff hne, ← hlength, ← htype]
  constructor
  · rintro ⟨t, rfl, hmatch⟩
    rw [exhausts_contentDepartures_iff fun ht => hs (List.mem_append_right _ ht)] at hmatch
    refine ⟨List.prefix_append _ t, ?_⟩
    rw [List.prefix_append_right_inj, List.prefix_append_right_inj]
    rcases hmatch with rfl | ⟨-, hdeparts⟩
    · decide
    · exact hdeparts
  · rintro ⟨⟨t, rfl⟩, hdeparts⟩
    rw [List.prefix_append_right_inj, List.prefix_append_right_inj] at hdeparts
    refine ⟨t, rfl, ?_⟩
    rw [exhausts_contentDepartures_iff fun ht => hs (List.mem_append_right _ ht)]
    by_cases hnil : t = []
    · exact .inl hnil
    · exact .inr ⟨hnil, hdeparts⟩

end Headers

/-! ## What is kept -/

/-- The names of the fields that are kept: not those of bodies or parameters, of the headers of
requests those that start like the user agent, and of the headers of responses those that start like
the length or the type of the content. -/
structure IsKept (name : String) : Prop where
  /-- It is not the body of a request. -/
  ne_request : name ≠ "request_body"
  /-- It is not the body of a response. -/
  ne_response : name ≠ "response_body"
  /-- It is not a parameter. -/
  not_param : ¬"request_param:".toList <+: name.toList
  /-- If it is a header of a request, then it starts like the user agent. -/
  agent : "request_header:".toList <+: name.toList →
    "request_header:user-agent".toList <+: name.toList
  /-- If it is a header of a response, then it starts like the length or the type of the content. -/
  content : "response_header:".toList <+: name.toList →
    "response_header:content-length".toList <+: name.toList ∨
      "response_header:content-type".toList <+: name.toList

/-- The tests of a name, in order. -/
lemma isKept_iff (name : String) :
    IsKept name ↔ name ≠ "request_body" ∧ name ≠ "response_body" ∧
      ¬"request_param:".toList <+: name.toList ∧
      ("request_header:".toList <+: name.toList →
        "request_header:user-agent".toList <+: name.toList) ∧
      ("response_header:".toList <+: name.toList →
        "response_header:content-length".toList <+: name.toList ∨
          "response_header:content-type".toList <+: name.toList) :=
  ⟨fun h => ⟨h.1, h.2, h.3, h.4, h.5⟩, fun ⟨h₁, h₂, h₃, h₄, h₅⟩ => ⟨h₁, h₂, h₃, h₄, h₅⟩⟩

instance (name : String) : Decidable (IsKept name) := decidable_of_iff' _ (isKept_iff name)

/-- On one line, the removal is about all names but those that are kept. -/
lemma removal_inScope_iff {name : String} (h : '\n' ∉ name.toList) :
    removal.inScope name = true ↔ ¬IsKept name := by
  have hbody : ∀ w : String, name.toList = w.toList ↔ name = w := fun w => String.toList_inj
  rw [removal_inScope_iff_exhausts, removed, exhausts_choice_iff (List.cons_ne_nil _ _), isKept_iff]
  simp only [List.exists_mem_cons_iff, List.not_mem_nil, false_and, exists_false, or_false,
    exhausts_plain_iff, exhausts_param_iff h, exhausts_request_iff h, exhausts_response_iff h,
    hbody, not_and_or, not_not, ne_eq, Classical.not_imp, not_or]

/-- The clipping is about the URL alone. -/
lemma clipping_inScope_iff {name : String} :
    clipping.inScope name = true ↔ name = "request_url" := by
  have hnode : clipping.scope.map Pattern.node = some (.cat (.assert .startText)
      (Syntax.sequence (plain "request_url".toList ++ [.assert .endText])).node) := rfl
  obtain ⟨p, hp, hnode⟩ := Option.map_eq_some_iff.mp hnode
  rw [Rule.inScope, hp]
  refine (isMatch_iff_fits hnode).trans ?_
  simp only [Node.Fits, spans_plain_append_iff]
  constructor
  · rintro ⟨_, t, hname, _ | _ | hend⟩
    obtain rfl : t = [] := by simpa [Assertion.holds] using hend
    rw [List.append_nil] at hname
    exact String.toList_inj.mp hname
  · rintro rfl
    exact ⟨_, [], (List.append_nil _).symm, .assert rfl⟩

/-- A value on one line that does not start with a cut is clipped at the first cut. -/
lemma clip_eq_uncut {s : List Char} (hs : '\n' ∉ s) (hcut : ∀ c ∈ s.head?, isCut c = false) :
    clip s = uncut s := by
  cases s with
  | nil => simp [clip, uncut]
  | cons c s =>
    have hc : isCut c = false := hcut c rfl
    have hline : fromLineFeed (fromCut s) = [] := by
      refine List.dropWhile_eq_nil_iff.mpr fun d hd => ?_
      rw [bne_iff_ne]
      rintro rfl
      exact hs (List.mem_cons_of_mem c ((List.dropWhile_sublist _).subset hd))
    rw [clip, hline, clip, hc, uncut, uncut, List.takeWhile_cons_of_pos (by simp [hc])]
    simp

/-- What becomes of a field: it is left out unless its name is to be kept and it has a value, and
the URL is cut. -/
def outcome (field : String × String) : Option (String × String) :=
  if IsKept field.1 ∧ field.2 ≠ "" then
    some (field.1, if field.1 = "request_url" then .ofList (uncut field.2.toList) else field.2)
  else none

/-- The names are on one line, and so are the URLs, which do not start with a cut. -/
structure IsPlainField (field : String × String) : Prop where
  /-- The name is on one line. -/
  name : '\n' ∉ field.1.toList
  /-- A URL is on one line. -/
  url : field.1 = "request_url" → '\n' ∉ field.2.toList
  /-- A URL does not start with a cut. -/
  start : field.1 = "request_url" → ∀ c ∈ field.2.toList.head?, isCut c = false

/-- The conditions on a field, in order. -/
lemma isPlainField_iff (field : String × String) :
    IsPlainField field ↔ '\n' ∉ field.1.toList ∧
      (field.1 = "request_url" → '\n' ∉ field.2.toList) ∧
      (field.1 = "request_url" → field.2.toList.head?.any isCut = false) := by
  simp only [Option.any_eq_false]
  exact ⟨fun h => ⟨h.1, h.2, h.3⟩, fun ⟨h₁, h₂, h₃⟩ => ⟨h₁, h₂, h₃⟩⟩

instance (field : String × String) : Decidable (IsPlainField field) :=
  decidable_of_iff' _ (isPlainField_iff field)

/-- What the policy does to a field. -/
lemma fate_eq_outcome {field : String × String} (h : IsPlainField field) :
    policy.fate field = outcome field := by
  obtain ⟨name, value⟩ := field
  by_cases hname : name = "request_url"
  · subst hname
    have hkept : IsKept "request_url" := by decide
    rw [fate_url, outcome, clip_eq_uncut (h.url rfl) (h.start rfl)]
    by_cases hvalue : value = "" <;> simp [hvalue, hkept]
  · have hclipping : clipping.inScope name = false := by
      rwa [← Bool.not_eq_true, clipping_inScope_iff]
    rw [fate_eq, outcome, hclipping, if_neg hname]
    by_cases hkept : IsKept name
    · have hremoval : removal.inScope name = false := by
        rw [← Bool.not_eq_true, removal_inScope_iff h.name]
        exact not_not_intro hkept
      by_cases hvalue : value = "" <;> simp [hremoval, hvalue, hkept]
    · simp [(removal_inScope_iff h.name).mpr hkept, hkept]

/-- The policy that includes the strict rules. -/
def included : Policy := ⟨"include strict", policy.rules⟩

set_option maxRecDepth 8000 in
/-- Including the strict rules comes to their rules. -/
lemma ofText_include_strict : Policy.ofText "include strict" = .ok included := by
  have hlines : (Text.lines "include strict".toList).flatMap Include.linesFor =
      Text.lines Canned.strict.text.toList := by
    have hone : Text.lines "include strict".toList = ["include strict".toList] := by decide
    have hfor : Include.linesFor "include strict".toList =
        Text.lines Canned.strict.text.toList := rfl
    rw [hone, List.flatMap_singleton, hfor]
  have hrules : Rule.parseAll (Include.expand "include strict".toList) = .ok included.rules := by
    rw [Rule.parseAll_expand, hlines]
    -- the kernel is slow at the characters of a text, so these are written out first
    delta included policy removal Canned.text Canned.strictText Canned.strictRemoved
    repeat rewrite [String.toList_append]
    repeat rewrite [String.toList_ofList]
    rfl
  exact Policy.ofText_eq_ok_iff.mpr ⟨rfl, hrules, by decide⟩

/-- **The strict rules keep what they are to keep.** The text that includes the strict rules is
compiled to a policy. Of a message whose names and URLs are on one line, and whose URLs do not start
with a cut, the policy keeps, in order and unless nothing is left, the fields that have a value and
whose names are to be kept, each as it is, but for the URL, which is cut at the first question mark
or semicolon.

**Proof sketch.** The pattern for the names that are removed is made of the ways to depart from the
words that are kept (`removal_node`), and these match just what does not start with the words
(`exhausts_departures_iff`). -/
theorem apply_include_strict :
    ∃ p, Policy.ofText "include strict" = .ok p ∧ ∀ (draw : Draw) (m : Message),
      (∀ field ∈ m.fields, IsPlainField field) →
        p.apply draw m =
          if m.fields.filterMap outcome = [] then none
          else some ⟨m.fields.filterMap outcome⟩ := by
  refine ⟨included, ofText_include_strict, fun draw m hm => ?_⟩
  have hfates : m.fields.filterMap policy.fate = m.fields.filterMap outcome :=
    List.filterMap_congr fun field hfield => fate_eq_outcome (hm field hfield)
  have hsame : included.apply draw m = policy.apply draw m := by
    rw [(Policy.wellFormed_of_ofText ofText_include_strict).apply_eq,
      (Policy.wellFormed_of_ofText ofText_strict).apply_eq]
    rfl
  rw [hsame, apply_policy, hfates]
  simp only [List.isEmpty_iff]

/-- Of these fields, those are kept whose names go on from a start that is kept. -/
theorem apply_include_strict_fields :
    ∃ p, Policy.ofText "include strict" = .ok p ∧
      p.apply ⟨0⟩ ⟨[("request_url", "/a?b;c"), ("request_header:user-agents", "x"),
        ("request_header:user", "x"), ("response_header:content-lengt", "x"),
        ("response_header:content-types", "x"), ("response_body", "x"), ("other", "")]⟩ =
        some ⟨[("request_url", "/a"), ("request_header:user-agents", "x"),
          ("response_header:content-types", "x")]⟩ := by
  obtain ⟨p, hp, happly⟩ := apply_include_strict
  refine ⟨p, hp, ?_⟩
  rw [happly _ _ (by decide +kernel)]
  decide +kernel

end HttpAudit.Strict
