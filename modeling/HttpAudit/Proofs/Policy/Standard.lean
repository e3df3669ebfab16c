import HttpAudit.Proofs.Pattern.Counted
import HttpAudit.Proofs.Pattern.Verbatim
import HttpAudit.Proofs.Policy.Compilation
import HttpAudit.Proofs.Policy.OnePass

set_option relaxedAutoImplicit false
set_option autoImplicit false

/-!
# The standard policy

The standard rules are three: one removes cookies, one masks e-mail addresses and one long numbers.
None drops a message, so that the policy decides field by field. Each rule has a pattern of several
choices for the names that it is about, with anchors that belong to the first choice and the last
one. This is why e-mail addresses are masked in a parameter only if its name ends with
`request_param`, while long numbers are in all of them.

## Main definitions

* `HttpAudit.Standard.removal`, `HttpAudit.Standard.mails`, `HttpAudit.Standard.numbers` — the
  three rules.
* `HttpAudit.Standard.policy` — the policy.
* `HttpAudit.Standard.IsCookie`, `HttpAudit.Standard.HasMails`, `HttpAudit.Standard.HasNumbers` —
  the names that they are about.
* `HttpAudit.Standard.maskMails`, `HttpAudit.Standard.maskNumbers` — the values with e-mail
  addresses and long numbers masked.
* `HttpAudit.Standard.outcome` — what becomes of a field.
* `HttpAudit.Standard.IsOverlooked` — the parameters whose e-mail addresses stay.

## Main results

* `HttpAudit.Standard.ofText_standard` — the standard rules are compiled to this policy.
* `HttpAudit.Standard.fate_policy` — what the policy does to each field.
* `HttpAudit.Standard.masks_iff` — what is kept of bodies and parameters.
-/

namespace HttpAudit.Standard

open Pattern

/-! ## The rules -/

/-- The rule that removes cookies. -/
def removal : Rule where
  verb := .remove
  scope := compile? "^request_header:cookie|response_header:set-cookie$".toList

/-- The text of the pattern for e-mail addresses. -/
def mailText : String :=
  "[a-zA-Z0-9.!#$%&’*+/=?^_`\x7b|\x7d~-]+@[a-zA-Z0-9-]+(?:\\.[a-zA-Z0-9-]+)"

/-- The pattern for e-mail addresses. -/
def mailPattern : Pattern := (compile? mailText.toList).getD ⟨[], .empty, 0, []⟩

/-- The rule that masks e-mail addresses. -/
def mails : Rule where
  verb := .replace
  scope := compile? "^(request|response)_body|request_param$".toList
  param := .pattern mailPattern
  substitution := some ⟨"x@y.com".toList, "x@y.com".toList⟩

/-- The digits, and the characters that stand between digits. -/
def numericClass : CharClass :=
  .union (.range 48 57) (.union (.single '.') (.union (.single '-') (.single '/')))

/-- The pattern for long numbers. -/
def numberPattern : Pattern :=
  ⟨"[0-9\\.\\-/]\x7b9,\x7d".toList, .atLeast 8 numericClass, 0, []⟩

/-- The rule that masks long numbers. -/
def numbers : Rule where
  verb := .replace
  scope := compile? "^request_body|request_param|response_body$".toList
  param := .pattern numberPattern
  substitution := some ⟨"xyxy".toList, "xyxy".toList⟩

/-- The standard policy. -/
def policy : Policy := ⟨"include standard", [removal, mails, numbers]⟩

/-- The text is that of a pattern, so that there is no need for the other value. -/
lemma compile?_mailText : compile? mailText.toList = some mailPattern := by
  have hsome : (compile? mailText.toList).isSome = true := by
    delta mailText
    rewrite [String.toList_ofList]
    rfl
  rw [mailPattern, Option.getD_of_ne_none (Option.isSome_iff_ne_none.mp hsome)]

set_option maxRecDepth 8000 in
/-- The standard rules are compiled to the standard policy. -/
theorem ofText_standard : Policy.ofText "include standard" = .ok policy := by
  have hlines : (Text.lines "include standard".toList).flatMap Include.linesFor =
      Text.lines Canned.standard.text.toList := by
    have hone : Text.lines "include standard".toList = ["include standard".toList] := by decide
    have hfor : Include.linesFor "include standard".toList =
        Text.lines Canned.standard.text.toList := rfl
    rw [hone, List.flatMap_singleton, hfor]
  have hrules : Rule.parseAll (Include.expand "include standard".toList) = .ok policy.rules := by
    rw [Rule.parseAll_expand, hlines]
    -- the kernel is slow at the characters of a text, so these are written out first
    delta policy removal mails numbers mailPattern numberPattern mailText Canned.text
      Canned.standardText
    repeat rewrite [String.toList_append]
    repeat rewrite [String.toList_ofList]
    rfl
  exact Policy.ofText_eq_ok_iff.mpr ⟨rfl, hrules, by decide⟩

/-! ## What they are about -/

/-- The names of cookies: those that start with that of the one or end with that of the other. -/
def IsCookie (name : String) : Prop :=
  "request_header:cookie".toList <+: name.toList ∨
    "response_header:set-cookie".toList <:+ name.toList

/-- The names of fields in which e-mail addresses are masked: those that start with that of a body
or end with `request_param`. -/
def HasMails (name : String) : Prop :=
  ("request_body".toList <+: name.toList ∨ "response_body".toList <+: name.toList) ∨
    "request_param".toList <:+ name.toList

/-- The names of fields in which long numbers are masked: those that start with `request_body`, have
`request_param` in them or end with `response_body`. -/
def HasNumbers (name : String) : Prop :=
  "request_body".toList <+: name.toList ∨ "request_param".toList <:+: name.toList ∨
    "response_body".toList <:+ name.toList

instance (name : String) : Decidable (IsCookie name) := inferInstanceAs (Decidable (_ ∨ _))

instance (name : String) : Decidable (HasMails name) := inferInstanceAs (Decidable (_ ∨ _))

instance (name : String) : Decidable (HasNumbers name) := inferInstanceAs (Decidable (_ ∨ _))

/-- A rule is about the names in which the pattern of its scope is found. -/
lemma inScope_iff_foundIn {rule : Rule} {node : Node} (h : rule.scope.map Pattern.node = some node)
    {name : String} : rule.inScope name = true ↔ node.FoundIn name.toList := by
  obtain ⟨p, hp, rfl⟩ := Option.map_eq_some_iff.mp h
  rw [Rule.inScope, hp]
  exact isMatch_iff

/-- The pattern for the names of cookies. -/
lemma removal_node :
    removal.scope.map Pattern.node =
      some (.alt
        (Syntax.sequence
          (.assert .startText :: Syntax.plain "request_header:cookie".toList)).node
        (Syntax.sequence
          (Syntax.plain "response_header:set-cookie".toList ++ [.assert .endText])).node) := by
  delta removal
  repeat rewrite [String.toList_ofList]
  rfl

/-- The pattern for the names of fields with e-mail addresses. -/
lemma mails_node :
    mails.scope.map Pattern.node =
      some (.alt
        (Syntax.sequence (.assert .startText ::
          .group 1 (.alt (Syntax.sequence (Syntax.plain "request".toList))
            (Syntax.sequence (Syntax.plain "response".toList))) ::
              Syntax.plain "_body".toList)).node
        (Syntax.sequence (Syntax.plain "request_param".toList ++ [.assert .endText])).node) := by
  delta mails
  repeat rewrite [String.toList_ofList]
  rfl

/-- The pattern for the names of fields with long numbers. -/
lemma numbers_node :
    numbers.scope.map Pattern.node =
      some (.alt
        (Syntax.sequence (.assert .startText :: Syntax.plain "request_body".toList)).node
        (.alt (Syntax.sequence (Syntax.plain "request_param".toList)).node
          (Syntax.sequence
            (Syntax.plain "response_body".toList ++ [.assert .endText])).node)) := by
  delta numbers
  repeat rewrite [String.toList_ofList]
  rfl

/-- The removal is about cookies. -/
lemma removal_inScope_iff {name : String} : removal.inScope name = true ↔ IsCookie name := by
  rw [inScope_iff_foundIn removal_node, foundIn_alt_iff, foundIn_start_iff, fits_plain_iff,
    foundIn_plain_end_iff, IsCookie]

/-- The first anchor in the pattern for e-mail addresses is in front of the bodies, and the second
one behind `request_param`. -/
lemma mails_inScope_iff {name : String} : mails.inScope name = true ↔ HasMails name := by
  have hrequest : "request".toList ++ "_body".toList = "request_body".toList := by decide
  have hresponse : "response".toList ++ "_body".toList = "response_body".toList := by decide
  rw [inScope_iff_foundIn mails_node, foundIn_alt_iff, foundIn_start_iff, fits_choice_iff,
    foundIn_plain_end_iff, hrequest, hresponse, HasMails]

/-- There is no anchor at `request_param` in the pattern for long numbers. -/
lemma numbers_inScope_iff {name : String} : numbers.inScope name = true ↔ HasNumbers name := by
  rw [inScope_iff_foundIn numbers_node, foundIn_alt_iff, foundIn_start_iff, fits_plain_iff,
    foundIn_alt_iff, foundIn_plain_iff, foundIn_plain_end_iff, HasNumbers]

/-! ## What they do -/

/-- The value with its e-mail addresses replaced by `x@y.com`. -/
def maskMails (value : String) : String :=
  .ofList (mailPattern.replaceAll ("x@y.com".toList.map .literal) value.toList)

/-- Whether a character is a digit, or one of those that stand between digits. -/
def isNumeric (c : Char) : Bool := c.isDigit || c == '.' || c == '-' || c == '/'

/-- The value with its runs of at least nine numeric characters replaced by `xyxy`. -/
def maskNumbers (value : String) : String :=
  .ofList (maskRuns isNumeric 8 "xyxy".toList value.toList)

/-- The class has the numeric characters. -/
lemma contains_numericClass (c : Char) : numericClass.contains c.toNat = isNumeric c := by
  simp only [numericClass, CharClass.contains, contains_single, isNumeric, Bool.or_assoc]
  rfl

/-- The rule about e-mail addresses masks them. -/
lemma substitute_mails (value : String) : mails.substitute value = maskMails value := by
  have htemplate : mails.template = "x@y.com".toList.map .literal := by decide
  show String.ofList (mailPattern.replaceAll mails.template value.toList) = _
  rw [htemplate, maskMails]

/-- The rule about long numbers masks them. -/
lemma substitute_numbers (value : String) : numbers.substitute value = maskNumbers value := by
  have htemplate : numbers.template = "xyxy".toList.map .literal := by decide
  show String.ofList (numberPattern.replaceAll numbers.template value.toList) = _
  rw [htemplate, replaceAll_atLeast rfl, maskNumbers]
  simp only [contains_numericClass]

/-- Nothing is left only of the empty value. -/
lemma maskNumbers_eq_empty_iff {value : String} : maskNumbers value = "" ↔ value = "" := by
  rw [maskNumbers, String.ofList_eq_empty_iff, maskRuns_eq_nil_iff (by decide),
    String.toList_eq_nil_iff]

/-- There are no e-mail addresses in the empty value. -/
lemma maskMails_empty : maskMails "" = "" := by
  rw [← substitute_mails]
  decide +kernel

/-! ## What becomes of fields -/

/-- The value of a field with its e-mail addresses and then its long numbers masked, so far as the
rules are about its name. -/
def masked (field : String × String) : String :=
  let value := if HasMails field.1 then maskMails field.2 else field.2
  if HasNumbers field.1 then maskNumbers value else value

/-- What becomes of a field: if it is not a cookie, then it is kept with the masked value, unless
this is empty. -/
def outcome (field : String × String) : Option (String × String) :=
  if IsCookie field.1 ∨ masked field = "" then none else some (field.1, masked field)

/-- A field is kept if it is not a cookie and the masked value is not empty. -/
lemma outcome_eq_some_iff {field after : String × String} :
    outcome field = some after ↔
      ¬IsCookie field.1 ∧ masked field ≠ "" ∧ after = (field.1, masked field) := by
  rw [outcome]
  split_ifs with h
  · rcases h with h | h <;> simp [h]
  · obtain ⟨hcookie, hvalue⟩ := not_or.mp h
    simp [hcookie, hvalue, eq_comm]

/-- The replacements of the policy mask the value. -/
lemma rewritten_policy (field : String × String) :
    policy.rewritten field.1 field.2 = masked field := by
  obtain ⟨name, value⟩ := field
  have hrules : (policy.rules.filter fun rule => rule.verb == .replace && rule.inScope name) =
      (if mails.inScope name then [mails] else []) ++
        if numbers.inScope name then [numbers] else [] := by
    have hremoval : (removal.verb == .replace && removal.inScope name) = false :=
      Bool.false_and _
    have hmails : (mails.verb == .replace && mails.inScope name) = mails.inScope name :=
      Bool.true_and _
    have hnumbers : (numbers.verb == .replace && numbers.inScope name) = numbers.inScope name :=
      Bool.true_and _
    show [removal, mails, numbers].filter _ = _
    simp only [List.filter_cons, hremoval, hmails, hnumbers, List.filter_nil,
      Bool.false_eq_true, if_false]
    cases mails.inScope name <;> cases numbers.inScope name <;> rfl
  rw [Policy.rewritten, hrules, List.foldl_append]
  simp only [mails_inScope_iff, numbers_inScope_iff, masked]
  by_cases hmails : HasMails name <;> by_cases hnumbers : HasNumbers name <;>
    simp [hmails, hnumbers, substitute_mails, substitute_numbers]

/-- What the policy does to each field. -/
theorem fate_policy : policy.fate = outcome := by
  funext field
  have hremoves : policy.rules.any (·.removes field) = removal.inScope field.1 := by
    show (removal.inScope field.1 || (false || (false || false))) = removal.inScope field.1
    simp
  rw [Policy.fate, hremoves, rewritten_policy, outcome]
  simp only [removal_inScope_iff, String.isEmpty_iff, ite_or]

/-- The policy keeps of a message what becomes of its fields, unless nothing does. -/
theorem apply_policy (draw : Draw) (m : Message) :
    policy.apply draw m =
      if (m.fields.filterMap outcome).isEmpty then none
      else some ⟨m.fields.filterMap outcome⟩ := by
  rw [(Policy.wellFormed_of_ofText ofText_standard).apply_eq, ← fate_policy]
  rfl

/-! ## Bodies and parameters -/

/-- The names of bodies and parameters. -/
def IsSensitive (name : String) : Prop :=
  name = "request_body" ∨ name = "response_body" ∨ "request_param:".toList <+: name.toList

/-- The names of parameters that are kept with their e-mail addresses. -/
def IsOverlooked (name : String) : Prop :=
  "request_param:".toList <+: name.toList ∧ ¬"request_param".toList <:+ name.toList ∧
    ¬"response_header:set-cookie".toList <:+ name.toList

instance (name : String) : Decidable (IsOverlooked name) := inferInstanceAs (Decidable (_ ∧ _))

/-- Long numbers are masked in all bodies and parameters. -/
lemma IsSensitive.hasNumbers {name : String} (h : IsSensitive name) : HasNumbers name := by
  rcases h with rfl | rfl | h
  · exact .inl List.prefix_rfl
  · exact .inr (.inr List.suffix_rfl)
  · have hstart : "request_param".toList <+: "request_param:".toList := by decide
    exact .inr (.inl (hstart.trans h).isInfix)

/-- E-mail addresses are masked in a parameter only if its name ends with `request_param`. -/
lemma hasMails_param_iff {name : String} (h : "request_param:".toList <+: name.toList) :
    HasMails name ↔ "request_param".toList <:+ name.toList := by
  have hbody : ¬("request_body".toList <+: name.toList ∨
      "response_body".toList <+: name.toList) := by
    rintro (hbody | hbody)
    · exact absurd (List.prefix_of_prefix_length_le hbody h (by decide)) (by decide)
    · exact absurd (List.prefix_of_prefix_length_le hbody h (by decide)) (by decide)
  exact or_iff_right hbody

/-- Of the bodies and parameters that are kept, those are overlooked in which e-mail addresses are
not masked. -/
lemma IsSensitive.hasMails_iff {name : String} (h : IsSensitive name) (hcookie : ¬IsCookie name) :
    HasMails name ↔ ¬IsOverlooked name := by
  rcases h with rfl | rfl | h
  · decide
  · decide
  · have hend : ¬"response_header:set-cookie".toList <:+ name.toList := fun h => hcookie (.inr h)
    rw [hasMails_param_iff h, IsOverlooked]
    tauto

/-- A parameter that is overlooked is not a cookie. -/
lemma IsOverlooked.not_isCookie {name : String} (h : IsOverlooked name) : ¬IsCookie name := by
  rintro (hcookie | hcookie)
  · exact absurd (List.prefix_of_prefix_length_le h.1 hcookie (by decide)) (by decide)
  · exact h.2.2 hcookie

/-- In a body or a parameter that is not a cookie, long numbers are masked, and before that e-mail
addresses unless it is overlooked. -/
lemma masked_of_isSensitive {field : String × String} (h : IsSensitive field.1)
    (hcookie : ¬IsCookie field.1) :
    masked field =
      if IsOverlooked field.1 then maskNumbers field.2 else maskNumbers (maskMails field.2) := by
  simp only [masked, if_pos h.hasNumbers, h.hasMails_iff hcookie, ite_not, apply_ite maskNumbers]

/-- A body or a parameter that is kept has its name and what is left of its value. -/
lemma outcome_of_isSensitive {field after : String × String} (h : IsSensitive field.1)
    (hafter : outcome field = some after) :
    after = (field.1,
      if IsOverlooked field.1 then maskNumbers field.2 else maskNumbers (maskMails field.2)) := by
  obtain ⟨hcookie, -, rfl⟩ := outcome_eq_some_iff.mp hafter
  rw [masked_of_isSensitive h hcookie]

/-- A parameter that is overlooked and has a value is kept, with only its long numbers masked. -/
lemma outcome_of_isOverlooked {field : String × String} (h : IsOverlooked field.1)
    (hvalue : field.2 ≠ "") : outcome field = some (field.1, maskNumbers field.2) := by
  have hmasked : masked field = maskNumbers field.2 := by
    rw [masked_of_isSensitive (.inr (.inr h.1)) h.not_isCookie, if_pos h]
  rw [outcome_eq_some_iff, hmasked]
  exact ⟨h.not_isCookie, mt maskNumbers_eq_empty_iff.mp hvalue, rfl⟩

/-- In all bodies and parameters that are kept both are masked iff it makes no difference to mask
the e-mail addresses in those that are overlooked. -/
lemma all_masked_iff {fields : List (String × String)} :
    (∀ field ∈ fields, IsSensitive field.1 → ∀ after, outcome field = some after →
        after = (field.1, maskNumbers (maskMails field.2))) ↔
      ∀ field ∈ fields, IsOverlooked field.1 →
        maskNumbers (maskMails field.2) = maskNumbers field.2 := by
  constructor
  · intro hall field hmem h
    by_cases hvalue : field.2 = ""
    · rw [hvalue, maskMails_empty]
    · have hafter := hall field hmem (.inr (.inr h.1)) _ (outcome_of_isOverlooked h hvalue)
      exact (congrArg Prod.snd hafter).symm
  · intro hnone field hmem h after hafter
    rw [outcome_of_isSensitive h hafter]
    split_ifs with hover
    · rw [hnone field hmem hover]
    · rfl

/-- What is kept is not named like a cookie. -/
lemma name_ne_of_outcome {field after : String × String} (h : outcome field = some after) :
    after.1 ≠ "request_header:cookie" ∧ after.1 ≠ "response_header:set-cookie" := by
  obtain ⟨hcookie, -, rfl⟩ := outcome_eq_some_iff.mp h
  constructor
  · intro hname
    exact hcookie (.inl (hname ▸ List.prefix_rfl))
  · intro hname
    exact hcookie (.inr (hname ▸ List.suffix_rfl))

/-- **Masking of bodies and parameters.** The standard rules are compiled to a policy that keeps
no cookies. In the bodies and parameters that it keeps, long numbers are masked, and before that
e-mail addresses, but not in the parameters that are overlooked. So both are masked in all of them
iff it makes no difference to mask the e-mail addresses in those.

**Proof sketch.** The policy decides field by field (`apply_policy`), and what it does to a field
depends on the names that the rules are about. A parameter that is overlooked is kept if it has a
value, and it shows the difference (`all_masked_iff`). -/
theorem masks_iff {p : Policy} (hp : Policy.ofText "include standard" = .ok p) {draw : Draw}
    {m kept : Message} (hkept : p.apply draw m = some kept) :
    compile? mailText.toList = some mailPattern ∧
    (∀ field ∈ kept.fields,
      field.1 ≠ "request_header:cookie" ∧ field.1 ≠ "response_header:set-cookie") ∧
    kept.fields = m.fields.filterMap outcome ∧
    (∀ field after, IsSensitive field.1 → outcome field = some after →
      after = (field.1,
        if IsOverlooked field.1 then maskNumbers field.2 else maskNumbers (maskMails field.2))) ∧
    ((∀ field ∈ m.fields, IsSensitive field.1 → ∀ after, outcome field = some after →
        after = (field.1, maskNumbers (maskMails field.2))) ↔
      ∀ field ∈ m.fields, IsOverlooked field.1 →
        maskNumbers (maskMails field.2) = maskNumbers field.2) := by
  obtain rfl : policy = p := Except.ok.inj (ofText_standard.symm.trans hp)
  have hfields : kept.fields = m.fields.filterMap outcome := by
    rw [apply_policy] at hkept
    split_ifs at hkept
    exact congrArg Message.fields (Option.some.inj hkept).symm
  refine ⟨compile?_mailText, ?_, hfields, fun _ _ => outcome_of_isSensitive, all_masked_iff⟩
  intro after hmem
  obtain ⟨field, -, hafter⟩ := List.mem_filterMap.mp (hfields ▸ hmem)
  exact name_ne_of_outcome hafter

/-- A cookie is removed, an e-mail address in a body is masked, and so is a long number in a
parameter, where an e-mail address stays. -/
theorem masks_iff_card :
    let m : Message := ⟨[("request_header:cookie", "id"), ("request_body", "a@b.com"),
      ("request_param:card", "4111-1111-1111-1111 a@b.com")]⟩
    let kept : Message := ⟨[("request_body", "x@y.com"), ("request_param:card", "xyxy a@b.com")]⟩
    Policy.ofText "include standard" = .ok policy ∧ policy.apply ⟨0⟩ m = some kept ∧
      kept.fields = m.fields.filterMap outcome := by
  intro m kept
  have happly : policy.apply ⟨0⟩ m = some kept := by decide +kernel
  exact ⟨ofText_standard, happly, (masks_iff ofText_standard happly).2.2.1⟩

/-- An e-mail address in a parameter is not masked, although the masking would change it. -/
theorem apply_mail_param :
    Policy.ofText "include standard" = .ok policy ∧
      policy.apply ⟨0⟩ ⟨[("request_param:mail", "a@b.com")]⟩ =
        some ⟨[("request_param:mail", "a@b.com")]⟩ ∧
      maskNumbers (maskMails "a@b.com") = "x@y.com" := by
  refine ⟨ofText_standard, by decide +kernel, ?_⟩
  rw [← substitute_numbers, ← substitute_mails]
  decide +kernel

end HttpAudit.Standard
