import HttpAudit.Policy.Defaults
import HttpAudit.Proofs.Policy.Adjacent

set_option relaxedAutoImplicit false
set_option autoImplicit false

/-!
# Rules with the default rules included

The default rules that can be held never have a line to include the default rules. Where the rules
of a policy have such a line, the lines of the default rules take its place, and all other lines
stay, apart from blank ones. But the default rules may lack a line feed at their end: if they are
included twice, with blank lines between, then the last line of the first copy and the first line of
the second copy may become one.

## Main definitions

* `HttpAudit.DefaultRules.IsHeld` — the default rules that can be held.

## Main results

* `HttpAudit.DefaultRules.IsHeld.trim_ne` — no line of them includes the default rules.
* `HttpAudit.resolveRules_lines_iff` — when the lines of the default rules take the place of the
  lines that include them.
-/

namespace HttpAudit

open Text Include

namespace DefaultRules

/-- The default rules that can be held: the strict ones at first, and then those that are set. -/
inductive IsHeld : DefaultRules → Prop where
  /-- The strict rules are held at first. -/
  | strict : IsHeld .strict
  /-- Other rules are set. -/
  | set {defaults : DefaultRules} (text : String) (h : IsHeld defaults) : IsHeld (defaults.set text)
  /-- The strict rules are set again. -/
  | reset {defaults : DefaultRules} (h : IsHeld defaults) : IsHeld defaults.reset

/-- The directive to include the default rules is a directive. -/
lemma isDirective_directive : IsDirective directive := ⟨by decide, by decide, by decide⟩

set_option maxRecDepth 8000 in
/-- The strict rules do not include the default rules. -/
lemma strict_lines :
    ((lines Canned.strict.text.toList).all fun line => trim line != directive) = true := by
  -- the kernel is slow at the characters of a text, so these are written out first
  delta Canned.text Canned.strictText Canned.strictRemoved
  repeat rewrite [String.toList_append]
  repeat rewrite [String.toList_ofList]
  decide +kernel

/-- Rules that are set do not include the default rules. -/
lemma trim_ne_of_mem_set (defaults : DefaultRules) (text : String) {line : List Char}
    (h : line ∈ lines (defaults.set text).text.toList) : trim line ≠ directive := by
  have hends : EndsLine [] := .inl rfl
  have hthins := thins_replace isDirective_directive hends text.toList
  rw [DefaultRules.set, String.toList_ofList] at h
  obtain ⟨other, -, hline⟩ := List.mem_flatMap.mp (hthins.sublist.subset h)
  rw [linesWith] at hline
  split_ifs at hline with htrim
  · obtain rfl : line = [] := by simpa [lines] using hline
    exact trim_ne_of_blank isDirective_directive (by simp)
  · rwa [List.mem_singleton.mp hline]

/-- Default rules that are held do not include the default rules. -/
lemma IsHeld.trim_ne {defaults : DefaultRules} (h : IsHeld defaults) {line : List Char}
    (hline : line ∈ lines defaults.text.toList) : trim line ≠ directive := by
  cases h with
  | strict => simpa using List.all_eq_true.mp strict_lines line hline
  | set text h => exact trim_ne_of_mem_set _ text hline
  | reset h => exact trim_ne_of_mem_set _ _ hline

end DefaultRules

/-- Rules that are not blank and name no file are resolved by replacing the directive. -/
lemma resolveRules_eq (files : Files) (defaults : DefaultRules) {rules : String}
    (hfile : ¬filePrefix <+: rules.toList) (hblank : ∃ c ∈ rules.toList, isBlank c = false) :
    resolveRules files defaults (some rules) = .ok (.ofList (Include.replace
      DefaultRules.directive defaults.text.toList rules.toList)) := by
  have hpath : rulesPath? rules = none := by
    rw [rulesPath?]
    exact if_neg (by rwa [List.isPrefixOf_iff_prefix])
  have hink : trimLeft rules.toList ≠ [] := by
    obtain ⟨c, hc, hink⟩ := hblank
    intro hnil
    rw [List.dropWhile_eq_nil_iff.mp hnil c hc] at hink
    cases hink
  have hload : loadRules files (some rules) = .ok rules := by
    rw [loadRules, hpath]
  have hempty : ¬(trimLeft rules.toList).isEmpty = true := by simpa using hink
  rw [resolveRules, hload]
  exact if_neg hempty

/-- **The default rules on lines of their own.** Rules that are not blank and name no file are
resolved. The lines of what comes out that are not blank are those of the rules, in order, with the
lines of the default rules in the place of each line that includes them, and no line is left that
includes them, if and only if no two such lines abut, or the default rules do not fuse with
themselves.

**Proof sketch.** Which lines there are is `Include.inkedLines_replace_iff`. No line of the default
rules includes them (`DefaultRules.IsHeld.trim_ne`), and no blank line does. -/
theorem resolveRules_lines_iff (files : Files) {defaults : DefaultRules} (h : defaults.IsHeld)
    {rules : String} (hfile : ¬filePrefix <+: rules.toList)
    (hblank : ∃ c ∈ rules.toList, isBlank c = false) :
    ∃ text, resolveRules files defaults (some rules) = .ok text ∧
      (((inkedLines text.toList = (inkedLines rules.toList).flatMap fun line =>
          if trim line = DefaultRules.directive then inkedLines defaults.text.toList else [line]) ∧
        ∀ line ∈ lines text.toList, trim line ≠ DefaultRules.directive) ↔
      ¬(Abuts DefaultRules.directive (lines rules.toList) ∧
        Fuses defaults.text.toList defaults.text.toList)) := by
  have hd := DefaultRules.isDirective_directive
  refine ⟨_, resolveRules_eq files defaults hfile hblank, ?_⟩
  rw [String.toList_ofList, ← inkedLines_replace_iff hd, and_iff_left_iff_imp]
  intro hlines line hline htrim
  -- the line is not blank, so it is one of the rules or of the default rules
  have hink : ¬line.all isBlank = true := fun hall =>
    trim_ne_of_blank hd (List.all_eq_true.mp hall) htrim
  have hmem : line ∈ inkedLines (Include.replace DefaultRules.directive defaults.text.toList
      rules.toList) := List.mem_filter.mpr ⟨hline, by simpa using hink⟩
  rw [hlines, List.mem_flatMap] at hmem
  obtain ⟨other, -, hother⟩ := hmem
  split_ifs at hother with hself
  · exact h.trim_ne (List.mem_of_mem_filter hother) htrim
  · obtain rfl := List.mem_singleton.mp hother
    exact hself htrim

/-- Default rules without a line feed at their end take the place of two lines with a comment
between. -/
theorem resolveRules_lines_comment :
    ∃ text, resolveRules (fun _ => none) (DefaultRules.strict.set "skip_compression")
        (some "include default\n# twice\n include default") = .ok text ∧
      (inkedLines text.toList).map String.ofList =
        ["skip_compression", "# twice", "skip_compression"] := by
  obtain ⟨text, hresolve, hlines⟩ := @resolveRules_lines_iff (fun _ => none) _
    (.set "skip_compression" .strict) "include default\n# twice\n include default"
    (by decide +kernel) ⟨'i', by decide +kernel, by decide +kernel⟩
  refine ⟨text, hresolve, ?_⟩
  rw [(hlines.mpr (by decide +kernel)).1]
  decide +kernel

/-- The same default rules in the place of two lines with an empty line between become one line,
which is not a rule. -/
theorem resolveRules_fused :
    resolveRules (fun _ => none) (DefaultRules.strict.set "skip_compression")
        (some "include default\n\ninclude default") = .ok "skip_compressionskip_compression" ∧
      inkedLines "skip_compressionskip_compression".toList ≠
        (inkedLines "include default\n\ninclude default".toList).flatMap fun line =>
          if trim line = DefaultRules.directive then
            inkedLines (DefaultRules.strict.set "skip_compression").text.toList
          else [line] := by
  decide +kernel

end HttpAudit
