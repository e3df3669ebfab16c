import HttpAudit.Proofs.Rule.Unambiguous
import Mathlib.Data.Nat.Digits.Defs

set_option relaxedAutoImplicit false
set_option autoImplicit false

/-!
# Phrases

What the author of a rule has in mind: a verb with the literals that it takes, each of them a text
and the separator that it is put between. A phrase is written down as a sentence. What is expected
of it does not depend on how lines are read, so it is said here without any reference to that.

## Main definitions

* `HttpAudit.Literal.Enclosed` — a text between two equal separators.
* `HttpAudit.Phrase` — a verb with its literals, or with its percentage.
* `HttpAudit.Phrase.sentence` — a phrase with its literals as they are written.
* `HttpAudit.Phrase.outcome` — the rule that is expected of a phrase, or the error.

## Main results

* `HttpAudit.Phrase.compile_sentence` — a phrase is compiled as expected, if its literals are read
  as expected.
* `HttpAudit.Phrase.exists_of_compile` — sentences that are compiled are phrases.
-/

namespace HttpAudit

/-! ## Literals -/

namespace Literal

/-- A text between two equal separators. -/
structure Enclosed where
  /-- The separator. -/
  separator : Char
  /-- The text, as it is written. -/
  body : List Char
  /-- A text is put between separators only. -/
  isSeparator : isSeparator separator = true

namespace Enclosed

/-- The text with its separators. -/
def text (e : Enclosed) : List Char := e.separator :: (e.body ++ [e.separator])

/-- The text in which an escaped separator stands for itself. -/
def meaning (e : Enclosed) : List Char := unescape e.separator e.body

/-- Where the separator is in the text, there is a backslash directly before it. -/
def IsEscaped (e : Enclosed) : Prop :=
  ∀ u v, e.body = u ++ e.separator :: v → u.getLast? = some '\\'

/-- The text has no separators, no sharp signs and no line feeds, and does not end in a blank. -/
structure IsPlain (e : Enclosed) : Prop where
  /-- There are no separators in it, be it the one around it or another one. -/
  isFree : IsFree e.body
  /-- There are no sharp signs in it. -/
  sharp : '#' ∉ e.body
  /-- There are no line feeds in it. -/
  feed : '\n' ∉ e.body
  /-- There is no blank at its end. -/
  not_isBlank : e.body.getLast?.any Text.isBlank = false

end Enclosed

/-- A text without the separator is as it is written. -/
lemma unescape_of_not_mem {d : Char} {s : List Char} (h : d ∉ s) : unescape d s = s := by
  fun_induction unescape d s with
  | case1 => rfl
  | case2 c => rfl
  | case3 c e rest hesc ih =>
    obtain ⟨-, rfl⟩ : c = '\\' ∧ e = d := by simpa using hesc
    exact absurd (by simp) h
  | case4 c e rest hesc ih => rw [ih fun hmem => h (List.mem_cons_of_mem c hmem)]

namespace Enclosed

/-- A literal in which the separator is escaped is read as its meaning. -/
lemma decode_text {e : Enclosed} (h : e.IsEscaped) (line : List Char) :
    decode line e.text = .ok e.meaning := by
  refine decode_eq_ok_iff.mpr ⟨e.separator, e.body, e.isSeparator, rfl, ?_, rfl⟩
  refine hasUnescaped_eq_false_iff.mpr fun u v huv => ?_
  rw [Option.or_none, h u v huv]

/-- A plain literal is read as it is written. -/
lemma IsPlain.decode_text {e : Enclosed} (h : e.IsPlain) (line : List Char) :
    decode line e.text = .ok e.body := by
  have hmem : e.separator ∉ e.body := fun hmem => by
    have hfree := h.isFree e.separator hmem
    rw [e.isSeparator] at hfree
    cases hfree
  have hesc : e.IsEscaped := fun u v huv => absurd (by rw [huv]; simp) hmem
  rw [Enclosed.decode_text hesc, meaning, unescape_of_not_mem hmem]

/-- The characters between the separators of a literal. -/
lemma isLiteral_text_iff {e : Enclosed} {least : Nat} :
    Part.IsLiteral least e.text ↔ least ≤ e.body.length ∧ '\n' ∉ e.body := by
  unfold Part.IsLiteral text
  constructor
  · rintro ⟨c, inner, d, heq, -, -, hleast, hfeed⟩
    obtain ⟨hinner, -⟩ := List.append_inj' (List.cons.inj heq).2 rfl
    rw [hinner]
    exact ⟨hleast, hfeed⟩
  · rintro ⟨hleast, hfeed⟩
    exact ⟨e.separator, e.body, e.separator, rfl, e.isSeparator, e.isSeparator, hleast, hfeed⟩

/-- A literal that can be read is a text between two equal separators that are escaped in it. -/
lemma exists_of_decode {least : Nat} {line l t : List Char} (hl : Part.IsLiteral least l)
    (h : decode line l = .ok t) :
    ∃ e : Enclosed, l = e.text ∧ e.IsEscaped ∧ least ≤ e.body.length := by
  obtain ⟨d, inner, hd, rfl, hfree, -⟩ := decode_eq_ok_iff.mp h
  let e : Enclosed := ⟨d, inner, hd⟩
  have hlength : least ≤ e.body.length := (isLiteral_text_iff.mp hl).1
  refine ⟨e, rfl, fun u v huv => ?_, hlength⟩
  simpa using hasUnescaped_eq_false_iff.mp hfree u v huv

end Enclosed

end Literal

/-! ## Phrases -/

open Literal (Enclosed)

/-- A verb with the literals that it takes, or with a percentage. Only a replacement may be
empty. -/
inductive Phrase where
  /-- A verb alone. -/
  | bare (verb : Verb) (hform : verb.form = .bare)
  /-- A verb and a pattern for keys. -/
  | key (verb : Verb) (key : Enclosed) (hform : verb.form = .key) (hkey : key.body ≠ [])
  /-- A scope and a verb. -/
  | scope (verb : Verb) (scope : Enclosed) (hform : verb.form = .scope) (hscope : scope.body ≠ [])
  /-- A scope, a verb and a pattern for values. -/
  | condition (verb : Verb) (scope value : Enclosed) (hform : verb.form = .condition)
      (hscope : scope.body ≠ []) (hvalue : value.body ≠ [])
  /-- A scope, a verb, a pattern and a replacement for its matches. -/
  | substitution (verb : Verb) (scope find replacement : Enclosed)
      (hform : verb.form = .substitution) (hscope : scope.body ≠ []) (hfind : find.body ≠ [])
  /-- A verb and a percentage. -/
  | percentage (verb : Verb) (digits : List Char) (hform : verb.form = .percentage)
      (hne : digits ≠ []) (hdigits : ∀ c ∈ digits, c.isDigit = true)

namespace Phrase

/-- The phrase with its literals as they are written. -/
def sentence : Phrase → Sentence
  | bare verb _ => .bare verb
  | key verb e _ _ => .key verb e.text
  | scope verb name _ _ => .scope verb name.text
  | condition verb name value _ _ _ => .condition verb name.text value.text
  | substitution verb name find replacement _ _ _ =>
    .substitution verb name.text find.text replacement.text
  | percentage verb digits _ _ _ => .percentage verb digits

/-- The literals of the phrase. -/
def literals : Phrase → List Enclosed
  | bare _ _ | percentage _ _ _ _ _ => []
  | key _ e _ _ => [e]
  | scope _ name _ _ => [name]
  | condition _ name value _ _ _ => [name, value]
  | substitution _ name find replacement _ _ _ => [name, find, replacement]

/-- The line of a phrase with the given blanks. -/
def spell (m : Margins) (p : Phrase) : List Char := p.sentence.spell m

/-- The rule that is expected of a phrase on a line, if `read` is what its literals stand for, or
the error. Patterns have anchors, apart from those that are searched for: the texts to replace, and
the values of the four verbs about what is found. -/
def outcome (read : Enclosed → List Char) (line : List Char) : Phrase → Except RuleError Rule
  | bare verb _ => .ok { verb }
  | key verb e _ _ => do
    let p ← Literal.compile line e.text (Literal.anchor (read e))
    .ok { verb, param := .pattern p }
  | scope verb name _ _ => do
    let p ← Literal.compile line name.text (Literal.anchor (read name))
    .ok { verb, scope := some p }
  | condition verb name value _ _ _ => do
    let p ← Literal.compile line name.text (Literal.anchor (read name))
    let q ← Literal.compile line value.text
      (if verb ∈ ([.removeIfFound, .removeUnlessFound, .stopIfFound, .stopUnlessFound] : List Verb)
        then read value else Literal.anchor (read value))
    .ok { verb, scope := some p, param := .pattern q }
  | substitution verb name find replacement _ _ _ => do
    let p ← Literal.compile line name.text (Literal.anchor (read name))
    let q ← Literal.compile line find.text (read find)
    .ok
      { verb
        scope := some p
        param := .pattern q
        substitution :=
          some ⟨read replacement, Replacement.toTemplate q.groups (read replacement)⟩ }
  | percentage verb digits _ _ _ =>
    let n := Nat.ofDigits 10 (digits.reverse.map fun d => d.toNat - '0'.toNat)
    if 1 ≤ n ∧ n ≤ 99 then .ok { verb, param := .percent n }
    else .error (.invalidSamplePercent (.ofList digits))

/-- The percentage that digits stand for is their value. -/
lemma percent?_eq (digits : List Char) :
    percent? digits =
      let n := Nat.ofDigits 10 (digits.reverse.map fun d => d.toNat - '0'.toNat)
      if 1 ≤ n ∧ n ≤ 99 then some n else none := by
  have hvalue : digits.foldl (fun n d => 10 * n + (d.toNat - '0'.toNat)) 0 =
      Nat.ofDigits 10 (digits.reverse.map fun d => d.toNat - '0'.toNat) := by
    rw [Nat.ofDigits_eq_foldr, List.foldr_map, List.foldr_reverse]
    simp only [Nat.cast_id, Nat.add_comm]
  simp only [percent?, hvalue, Bool.and_eq_true, decide_eq_true_eq]

/-- Among the verbs with a condition, those whose value is searched for are about what is found. -/
lemma isSearch_iff_mem {v : Verb} (h : v.form = .condition) :
    v.isSearch = true ↔
      v ∈ ([.removeIfFound, .removeUnlessFound, .stopIfFound, .stopUnlessFound] : List Verb) := by
  cases v with
  | replace => cases h
  | _ => decide

/-- A phrase is compiled as expected if its literals are read as expected. -/
lemma compile_sentence {p : Phrase} {read : Enclosed → List Char} {line : List Char}
    (h : ∀ e ∈ p.literals, Literal.decode line e.text = .ok (read e)) :
    p.sentence.compile line = p.outcome read line := by
  cases p with
  | bare v hform => rfl
  | key v e hform hkey =>
    have he := h e (by simp [literals])
    simp only [sentence, Sentence.compile, outcome, Literal.wholePattern, he]
    rfl
  | scope v name hform hscope =>
    have hname := h name (by simp [literals])
    simp only [sentence, Sentence.compile, outcome, Literal.wholePattern, hname]
    rfl
  | condition v name value hform hscope hvalue =>
    have hname := h name (by simp [literals])
    have hvalue := h value (by simp [literals])
    simp only [sentence, Sentence.compile, outcome, Literal.wholePattern, Literal.searchPattern,
      hname, hvalue, isSearch_iff_mem hform]
    split_ifs <;> rfl
  | substitution v name find replacement hform hscope hfind =>
    have hname := h name (by simp [literals])
    have hfind := h find (by simp [literals])
    have hreplacement := h replacement (by simp [literals])
    simp only [sentence, Sentence.compile, outcome, Literal.wholePattern, Literal.searchPattern,
      hname, hfind, hreplacement]
    rfl
  | percentage v digits hform hne hdigits =>
    simp only [sentence, Sentence.compile, outcome, percent?_eq]
    split_ifs <;> rfl

/-- A phrase has what the form of its verb asks for, if there are no line feeds in its literals. -/
lemma isApt_sentence {p : Phrase} (h : ∀ e ∈ p.literals, '\n' ∉ e.body) : p.sentence.IsApt := by
  have hapt : ∀ e ∈ p.literals, e.body ≠ [] → Part.IsLiteral 1 e.text := fun e he hne =>
    Enclosed.isLiteral_text_iff.mpr ⟨List.length_pos_iff.mpr hne, h e he⟩
  cases p with
  | bare v hform => exact ⟨hform.symm, trivial⟩
  | key v e hform hkey => exact ⟨hform.symm, hapt e (by simp [literals]) hkey⟩
  | scope v name hform hscope => exact ⟨hform.symm, hapt name (by simp [literals]) hscope⟩
  | condition v name value hform hscope hvalue =>
    exact ⟨hform.symm, hapt name (by simp [literals]) hscope,
      hapt value (by simp [literals]) hvalue⟩
  | substitution v name find replacement hform hscope hfind =>
    exact ⟨hform.symm, hapt name (by simp [literals]) hscope, hapt find (by simp [literals]) hfind,
      Enclosed.isLiteral_text_iff.mpr ⟨Nat.zero_le _, h replacement (by simp [literals])⟩⟩
  | percentage v digits hform hne hdigits => exact ⟨hform.symm, hne, hdigits⟩

/-- A sentence that is compiled is a phrase whose literals have their separators escaped. -/
lemma exists_of_compile {s : Sentence} (hs : s.IsApt) {line : List Char} {rule : Rule}
    (h : s.compile line = .ok rule) :
    ∃ p : Phrase, p.sentence = s ∧ ∀ e ∈ p.literals, e.IsEscaped := by
  have hpattern : ∀ {l : List Char}, (∃ t, Literal.decode line l = .ok t) → Part.IsLiteral 1 l →
      ∃ e : Enclosed, l = e.text ∧ e.IsEscaped ∧ e.body ≠ [] := by
    rintro l ⟨t, ht⟩ hl
    obtain ⟨e, he, hesc, hpos⟩ := Enclosed.exists_of_decode hl ht
    exact ⟨e, he, hesc, List.length_pos_iff.mp hpos⟩
  have hwhole : ∀ {l : List Char} {q : Pattern}, Literal.wholePattern line l = .ok q →
      ∃ t, Literal.decode line l = .ok t :=
    fun hq => (Literal.wholePattern_eq_ok_iff.mp hq).imp fun _ ht => ht.1
  have hsearch : ∀ {l : List Char} {q : Pattern}, Literal.searchPattern line l = .ok q →
      ∃ t, Literal.decode line l = .ok t :=
    fun hq => (Literal.searchPattern_eq_ok_iff.mp hq).imp fun _ ht => ht.1
  obtain ⟨hform, hapt⟩ := hs
  cases s <;> simp only [Sentence.compile, bind_eq_ok_iff, Except.ok.injEq] at h
  case bare v => exact ⟨.bare v hform.symm, rfl, by simp [literals]⟩
  case key v text =>
    obtain ⟨q, hq, -⟩ := h
    obtain ⟨e, rfl, hesc, hne⟩ := hpattern (hwhole hq) hapt
    exact ⟨.key v e hform.symm hne, rfl, by simpa [literals] using hesc⟩
  case scope v name =>
    obtain ⟨q, hq, -⟩ := h
    obtain ⟨e, rfl, hesc, hne⟩ := hpattern (hwhole hq) hapt
    exact ⟨.scope v e hform.symm hne, rfl, by simpa [literals] using hesc⟩
  case condition v name value =>
    obtain ⟨q, hq, h⟩ := h
    obtain ⟨e, rfl, hesc, hne⟩ := hpattern (hwhole hq) hapt.1
    obtain ⟨e', rfl, hesc', hne'⟩ :
        ∃ e : Enclosed, value = e.text ∧ e.IsEscaped ∧ e.body ≠ [] := by
      split at h <;> obtain ⟨q', hq', -⟩ := bind_eq_ok_iff.mp h
      · exact hpattern (hsearch hq') hapt.2
      · exact hpattern (hwhole hq') hapt.2
    exact ⟨.condition v e e' hform.symm hne hne', rfl, by simpa [literals] using ⟨hesc, hesc'⟩⟩
  case substitution v name find replacement =>
    obtain ⟨q, hq, q', hq', t, ht, -⟩ := h
    obtain ⟨e, rfl, hesc, hne⟩ := hpattern (hwhole hq) hapt.1
    obtain ⟨e', rfl, hesc', hne'⟩ := hpattern (hsearch hq') hapt.2.1
    obtain ⟨e'', rfl, hesc'', -⟩ := Enclosed.exists_of_decode hapt.2.2 ht
    exact ⟨.substitution v e e' e'' hform.symm hne hne', rfl,
      by simpa [literals] using ⟨hesc, hesc', hesc''⟩⟩
  case percentage v digits =>
    exact ⟨.percentage v digits hform.symm hapt.1 hapt.2, rfl, by simp [literals]⟩

end Phrase

end HttpAudit
