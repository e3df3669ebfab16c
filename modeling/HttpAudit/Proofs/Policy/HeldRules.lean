import HttpAudit.Proofs.Policy.Defaults

set_option relaxedAutoImplicit false
set_option autoImplicit false

/-!
# The default rules that are held

Default rules are set and reset any number of times. When they are set, the lines that would include
them are taken out in one pass, in which the blanks around such a line, which may reach over several
lines, go with it. Still no such line is passed over, none comes to be, and all other lines that are
not blank stay as they are.

## Main definitions

* `HttpAudit.DefaultRules.Call`, `HttpAudit.DefaultRules.perform` — what can be done with default
  rules.
* `HttpAudit.DefaultRules.lastText` — the text that was set last.

## Main results

* `HttpAudit.Include.replace_of_forall_ne` — a text without a directive stays as it is.
* `HttpAudit.Include.inkedLines_replace_nil` — the lines that are left where directives are taken
  out.
* `HttpAudit.DefaultRules.held_after` — what is held after any calls.
-/

namespace HttpAudit

open Text Include

/-! ## Taking out a directive -/

namespace Include

variable {directive : List Char}

/-- Where a directive is found, there is a line with it. -/
lemma exists_trim_eq_of_directive? (hd : IsDirective directive) {s : List Char}
    {found : List Char × List Char} (h : directive? directive s = some found) :
    ∃ line ∈ lines s, trim line = directive := by
  obtain ⟨lead, rfl, hlead, hb, hafter⟩ := directive?_eq_some h
  obtain ⟨bs, line, bs', -, htrim, -, -, hlines⟩ := exists_lines_around hd hlead hb hafter
  exact ⟨line, hlines ▸ List.mem_append_right bs List.mem_cons_self, htrim⟩

/-- A text stays as it is if no line has the directive.

**Proof sketch.** Strong induction on the length of the text: no directive is found at its start, so
its first line is passed over. -/
lemma replace_of_forall_ne (hd : IsDirective directive) (body : List Char) {s : List Char}
    (h : ∀ line ∈ lines s, trim line ≠ directive) : replace directive body s = s := by
  show onward directive body true s = s
  obtain ⟨n, hn⟩ : ∃ n, s.length = n := ⟨_, rfl⟩
  induction n using Nat.strong_induction_on generalizing s with
  | _ n ih =>
  have hnone : directive? directive s = none := by
    rw [Option.eq_none_iff_forall_ne_some]
    intro found hfound
    obtain ⟨line, hline, htrim⟩ := exists_trim_eq_of_directive? hd hfound
    exact h line hline htrim
  obtain ⟨line, t, rfl, hline, ht⟩ := exists_isLineEnd s
  rw [onward_of_none hd hline hnone]
  rcases ht with rfl | ⟨t, rfl⟩
  · rfl
  · have hrest : ∀ other ∈ lines t, trim other ≠ directive := fun other hother =>
      h other (by simp [lines_append_cons, hother])
    rw [onward_cons hd, if_neg Bool.false_ne_true]
    show line ++ '\n' :: onward directive body true t = _
    rw [ih t.length (by simp at hn; omega) hrest rfl]

/-- Where directives are taken out, the other lines that are not blank are left. -/
lemma inkedLines_replace_nil (hd : IsDirective directive) (s : List Char) :
    inkedLines (replace directive [] s) =
      (inkedLines s).filter fun line => trim line != directive := by
  have hfuses : ¬Fuses [] [] := by decide
  rw [(inkedLines_replace_iff hd [] s).mpr fun h => hfuses h.2]
  have hnil : inkedLines [] = [] := rfl
  induction inkedLines s with
  | nil => rfl
  | cons line ls ih =>
    rw [List.flatMap_cons, ih, hnil, List.filter_cons]
    by_cases htrim : trim line = directive <;> simp [htrim]

end Include

/-! ## Any calls -/

namespace DefaultRules

/-- What can be done with default rules. -/
inductive Call where
  /-- They are set. -/
  | set (text : String)
  /-- They are set back to the strict ones. -/
  | reset

/-- The default rules after a call. -/
def perform (defaults : DefaultRules) : Call → DefaultRules
  | .set text => defaults.set text
  | .reset => defaults.reset

/-- The text that is set by a call. -/
def Call.text : Call → String
  | .set text => text
  | .reset => Canned.strict.text

/-- The text that was set last: the strict rules, if none was. -/
def lastText (calls : List Call) : String :=
  (calls.getLast?.map Call.text).getD Canned.strict.text

/-- The default rules that are held are those that were set last. -/
lemma foldl_perform_eq (calls : List Call) :
    calls.foldl perform .strict = DefaultRules.strict.set (lastText calls) := by
  rcases List.eq_nil_or_concat calls with rfl | ⟨before, call, rfl⟩
  · -- nothing is taken out of the strict rules
    have hfree : ∀ line ∈ lines Canned.strict.text.toList, trim line ≠ directive :=
      fun line hline => IsHeld.strict.trim_ne hline
    show strict = strict.set Canned.strict.text
    rw [set, replace_of_forall_ne isDirective_directive [] hfree, String.ofList_toList]
    rfl
  · rw [List.concat_eq_append, List.foldl_concat, lastText, List.getLast?_concat]
    cases call <;> rfl

/-- **No default rules include themselves.** Take any calls that set default rules or set them back
to the strict ones. Afterwards no line of the default rules includes them, so that nothing in them
is replaced by anything where the default rules are included. Their lines that are not blank are
those of the text that was set last, in order, without those that include the default rules; and to
set them once more makes no difference.

**Proof sketch.** What is held is what the last call has set (`foldl_perform_eq`), and only lines
that include the default rules are taken out of it (`Include.inkedLines_replace_nil`). As none is
left, nothing is taken out any more (`Include.replace_of_forall_ne`). -/
theorem held_after (calls : List Call) :
    let held := calls.foldl perform .strict
    (∀ line ∈ lines held.text.toList, trim line ≠ directive) ∧
      (∀ body, Include.replace directive body held.text.toList = held.text.toList) ∧
      (inkedLines held.text.toList =
        (inkedLines (lastText calls).toList).filter fun line => trim line != directive) ∧
      held.set held.text = held := by
  intro held
  have hheld : held = strict.set (lastText calls) := foldl_perform_eq calls
  have hfree : ∀ line ∈ lines held.text.toList, trim line ≠ directive := by
    rw [hheld]
    exact fun line hline => trim_ne_of_mem_set strict _ hline
  have hsame (body : List Char) :
      Include.replace directive body held.text.toList = held.text.toList :=
    replace_of_forall_ne isDirective_directive body hfree
  refine ⟨hfree, hsame, ?_, ?_⟩
  · rw [hheld, set, String.toList_ofList, inkedLines_replace_nil isDirective_directive]
  · rw [set, hsame, String.ofList_toList]

/-- A line that includes the default rules between blank lines, and one that is no such line. -/
example : ([.reset, .set "sample 42\n\n include default \n\ninclude defaults"].foldl perform
    .strict).text = "sample 42\n\ninclude defaults" := by
  decide +kernel

end DefaultRules

end HttpAudit
