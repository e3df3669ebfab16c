import HttpAudit.Policy.Session
import HttpAudit.Proofs.Pattern.Prefix
import HttpAudit.Proofs.Policy.Clip
import HttpAudit.Proofs.Policy.OnePass

set_option relaxedAutoImplicit false
set_option autoImplicit false

/-!
# The strict policy

The strict rules are two: one clips the URL, and one removes fields by their names. Neither drops a
message, so that the policy decides field by field.

## Main definitions

* `HttpAudit.Strict.clipping`, `HttpAudit.Strict.removal` — the two rules.
* `HttpAudit.Strict.policy` — the policy.

## Main results

* `HttpAudit.Strict.ofText_strict` — the strict rules are compiled to this policy.
* `HttpAudit.Strict.apply_policy` — the policy decides field by field.
* `HttpAudit.Strict.fate_url`, `HttpAudit.Strict.fate_param`, `HttpAudit.Strict.fate_body` — what
  becomes of URLs, parameters and bodies.
-/

namespace HttpAudit.Strict

open Pattern

/-! ## The rules -/

/-- The rule that clips the URL. -/
def clipping : Rule where
  verb := .replace
  scope := compile? "^request_url$".toList
  param := .pattern clipPattern
  substitution := some ⟨"$1".toList, ['$', '{', '1', '}']⟩

/-- The rule that removes fields by their names. -/
def removal : Rule where
  verb := .remove
  scope := compile? ('^' :: (Canned.strictRemoved.toList ++ ['$']))

/-- The strict policy. -/
def policy : Policy := ⟨Canned.strict.text, [clipping, removal]⟩

set_option maxRecDepth 8000 in
/-- The strict rules are compiled to the strict policy. -/
theorem ofText_strict : Policy.ofText Canned.strict.text = .ok policy := by
  have hrules : Rule.parseAll (Include.expand Canned.strict.text.toList) = .ok policy.rules := by
    -- the kernel is slow at the characters of a text, so these are written out first
    delta policy removal Canned.text Canned.strictText Canned.strictRemoved
    repeat rewrite [String.toList_append]
    repeat rewrite [String.toList_ofList]
    rfl
  exact Policy.ofText_eq_ok_iff.mpr ⟨rfl, hrules, by decide⟩

/-! ## What they are about -/

set_option maxRecDepth 8000 in
/-- The names that the removal is about, so far as this depends on what follows their start. -/
lemma removal_behind :
    removal.scope.bind (·.behind? "request_param:".toList) =
      some [.cat (.alt (.plus true (.chars dotClass)) .empty) (.assert .endText)] := by
  delta removal Canned.strictRemoved
  repeat rewrite [String.toList_append]
  repeat rewrite [String.toList_ofList]
  rfl

/-- The removal is about bodies, and it is not about the URL. -/
lemma removal_names :
    removal.inScope "request_body" = true ∧ removal.inScope "response_body" = true ∧
      removal.inScope "request_url" = false := by
  delta removal Canned.strictRemoved
  repeat rewrite [String.toList_append]
  repeat rewrite [String.toList_ofList]
  decide +kernel

/-- The clipping is about the URL. -/
lemma clipping_url : clipping.inScope "request_url" = true := by decide +kernel

/-- The clipping is not about parameters. -/
lemma clipping_behind : clipping.scope.bind (·.behind? "request_param:".toList) = some [] := rfl

/-- Whether a rule is about a name whose start is given. -/
lemma inScope_append_iff {rule : Rule} {w : List Char} {nodes : List Node}
    (h : rule.scope.bind (·.behind? w) = some nodes) {name : String} {s : List Char}
    (hname : name.toList = w ++ s) :
    rule.inScope name = true ↔ ∃ r ∈ nodes, r.Fits ⟨w.reverse, s⟩ := by
  obtain ⟨p, hp, hbehind⟩ := Option.bind_eq_some_iff.mp h
  rw [Rule.inScope, hp, hname]
  exact isMatch_append_iff hbehind s

/-- A repeated dot in front of the end matches what has no line feed. -/
lemma fits_dots_iff {before s : List Char} :
    Node.Fits (.cat (.alt (.plus true (.chars dotClass)) .empty) (.assert .endText)) ⟨before, s⟩ ↔
      '\n' ∉ s := by
  constructor
  · rintro ⟨q, h⟩
    cases h with
    | cat ha hb =>
      obtain ⟨w, t, hs, hw, rfl⟩ := spans_star_chars_iff.mp ha
      cases hb with
      | assert hend =>
        obtain rfl : t = [] := by simpa [Assertion.holds] using hend
        obtain rfl : s = w := by simpa using hs
        intro hmem
        have hdot := hw _ hmem
        rw [contains_dotClass] at hdot
        simp at hdot
  · intro h
    refine ⟨_, .cat (spans_star_chars_iff.mpr ⟨s, [], by simp, fun c hc => ?_, rfl⟩)
      (.assert rfl)⟩
    rw [contains_dotClass, bne_iff_ne]
    rintro rfl
    exact h hc

/-- The removal is about a parameter if its name has no line feed. -/
lemma removal_param {name : String} {s : List Char}
    (h : name.toList = "request_param:".toList ++ s) :
    removal.inScope name = !name.toList.contains '\n' := by
  rw [Bool.eq_iff_iff, inScope_append_iff removal_behind h]
  simp [fits_dots_iff, h]

/-- The clipping is not about a parameter. -/
lemma clipping_param {name : String} {s : List Char}
    (h : name.toList = "request_param:".toList ++ s) : clipping.inScope name = false := by
  rw [Bool.eq_false_iff, ne_eq, inScope_append_iff clipping_behind h]
  simp

/-! ## What becomes of fields -/

/-- The clipping replaces a value by the clipped one. -/
lemma substitute_clipping (value : String) :
    clipping.substitute value = .ofList (clip value.toList) := by
  have htemplate : clipping.template = [.index 1] := by decide
  show String.ofList (clipPattern.replaceAll clipping.template value.toList) = _
  rw [htemplate, replaceAll_clipPattern]

/-- What becomes of a field. -/
lemma fate_eq (name value : String) :
    policy.fate (name, value) =
      if removal.inScope name then none
      else
        let value := if clipping.inScope name then .ofList (clip value.toList) else value
        if value.isEmpty then none else some (name, value) := by
  have hremoves : policy.rules.any (·.removes (name, value)) = removal.inScope name := by
    show (false || (removal.inScope name || false)) = removal.inScope name
    rw [Bool.false_or, Bool.or_false]
  have hrewritten : policy.rewritten name value =
      if clipping.inScope name then .ofList (clip value.toList) else value := by
    have hrules : (policy.rules.filter fun rule => rule.verb == .replace && rule.inScope name) =
        if clipping.inScope name then [clipping] else [] := by
      have hclipping : (clipping.verb == .replace && clipping.inScope name) =
          clipping.inScope name := Bool.true_and _
      have hremoval : (removal.verb == .replace && removal.inScope name) = false :=
        Bool.false_and _
      show [clipping, removal].filter _ = _
      simp only [List.filter_cons, hclipping, hremoval, List.filter_nil]
      rfl
    rw [Policy.rewritten, hrules]
    split_ifs
    · exact substitute_clipping value
    · rfl
  rw [Policy.fate, hremoves, hrewritten]

/-- A URL is clipped. It is kept unless it is empty. -/
lemma fate_url (url : String) :
    policy.fate ("request_url", url) =
      if url.isEmpty then none else some ("request_url", .ofList (clip url.toList)) := by
  have hremoval : removal.inScope "request_url" = false := removal_names.2.2
  have hempty : (String.ofList (clip url.toList)).isEmpty = url.isEmpty := by
    rw [Bool.eq_iff_iff, String.isEmpty_iff, String.isEmpty_iff, String.ofList_eq_empty_iff,
      clip_eq_nil_iff, String.toList_eq_nil_iff]
  simp [fate_eq, hremoval, clipping_url, hempty]

/-- A body is removed. -/
lemma fate_body {name : String} (h : name = "request_body" ∨ name = "response_body")
    (body : String) : policy.fate (name, body) = none := by
  have hremoval : removal.inScope name = true := by
    rcases h with rfl | rfl
    · exact removal_names.1
    · exact removal_names.2.1
  simp [fate_eq, hremoval]

/-- A parameter is kept if its name has a line feed and its value is not empty. -/
lemma fate_param {name : String} {s : List Char} (h : name.toList = "request_param:".toList ++ s)
    (value : String) :
    policy.fate (name, value) =
      if name.toList.contains '\n' && !value.isEmpty then some (name, value) else none := by
  rw [fate_eq, removal_param h, clipping_param h]
  cases hname : name.toList.contains '\n' <;> cases hvalue : value.isEmpty <;> simp [hvalue]

/-- The policy keeps of a message what becomes of its fields, unless nothing does. -/
theorem apply_policy (draw : Draw) (m : Message) :
    policy.apply draw m =
      if (m.fields.filterMap policy.fate).isEmpty then none
      else some ⟨m.fields.filterMap policy.fate⟩ := by
  rw [(Policy.wellFormed_of_ofText ofText_strict).apply_eq]
  rfl

/-- Nothing is copied from the session. -/
lemma sessionFields_policy (session : Session) : policy.sessionFields session = [] := rfl

end HttpAudit.Strict
