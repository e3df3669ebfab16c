import HttpAudit.Proofs.Rule.Phrase

set_option relaxedAutoImplicit false
set_option autoImplicit false

/-!
# The grammar of rules

Lines are read as their authors mean them. A phrase that is written down with plain literals is
read as the rule that is expected of it, whatever blanks are left around its parts. Conversely, each
rule that is read is the one that is expected of some phrase, of which the line is a spelling with a
comment behind it or none.

## Main definitions

* `HttpAudit.Rule.HasFields` — a rule has the fields that its verb asks for.

## Main results

* `HttpAudit.Rule.parse_spell` — phrases with plain literals are read as expected.
* `HttpAudit.Rule.parse_sound` — what is read are comments and phrases.
-/

namespace HttpAudit

/-! ## Spelled lines -/

/-- A line that can be read for a verb is neither blank nor a comment. -/
lemma Part.IsRead.isTail_eq_false {v : Verb} {line : List Char} {texts : List (List Char)}
    (h : IsRead v.shape line texts) : isTail line = false := by
  obtain ⟨part, parts, hshape, hpart⟩ : ∃ part parts, v.shape = blanks 0 :: part :: parts ∧
      isBlanksPart part = false := by
    cases v <;> exact ⟨_, _, rfl, rfl⟩
  have hfit := v.isFitting_shape
  rw [hshape] at h hfit
  obtain ⟨after, h⟩ := h
  cases h with
  | @blanks _ _ b t _ _ hb hleast h =>
    simp only [isFitting, Bool.and_eq_true] at hfit
    obtain ⟨c, t, rfl, hblank, hsharp⟩ := h.exists_cons hpart (by simpa [isFitting] using hfit.2)
    unfold isTail
    rw [(takeWhile_isBlank hb hblank).2]
    split
    · next heq => cases heq
    · next heq => exact absurd (List.cons.inj heq).1 hsharp
    · rfl

/-- A character is not in a spelling if it is neither in its blanks, nor in its words, nor in its
literals or digits. -/
lemma Sentence.not_mem_spell {s : Sentence} {m : Margins} {c : Char}
    (hgaps : ∀ gap : Text.Gap, c ∉ gap.chars) (hkeyword : c ∉ s.verb.keyword.toList)
    (hcomma : c ≠ ',') (htexts : ∀ l ∈ s.texts, c ∉ l) : c ∉ s.spell m := by
  cases s <;> simp only [texts, List.forall_mem_cons, verb] at htexts hkeyword <;>
    simp [spell, *]

namespace Sentence

/-- A line that can be read for a verb is a sentence. -/
lemma exists_ofLine? {v : Verb} {line : List Char} {texts : List (List Char)} (hfeed : '\n' ∉ line)
    (h : Part.IsRead v.shape line texts) : ∃ s, ofLine? line = some s := by
  obtain ⟨after, h⟩ := h
  obtain ⟨texts', after', hread, hreads, -⟩ := Part.read_of_reads v.isFitting_shape hfeed h
  obtain ⟨s, hs, -⟩ := exists_ofTexts? hreads
  have hv : ofVerb? v line = some s := by rw [ofVerb?, hread, Option.bind_some, hs]
  apply Option.ne_none_iff_exists'.mp
  intro hnone
  have hv' : ofVerb? v line = none := List.findSome?_eq_none_iff.mp hnone v v.mem_all
  rw [hv] at hv'
  cases hv'

/-- A line that is a sentence is a spelling of it, with a comment behind it or none. -/
lemma exists_spell_of_ofLine? {line : List Char} {s : Sentence} (hfeed : '\n' ∉ line)
    (h : ofLine? line = some s) :
    s.IsApt ∧ ∃ m comment, line = s.spell m ++ comment ∧ Text.IsComment comment := by
  obtain ⟨hv, -⟩ := ofLine?_eq_some_iff.mp h
  exact exists_spell (form_of_ofLine? h) hfeed (reads_of_ofVerb? hv)

end Sentence

namespace Phrase

/-- The literals of the phrase are plain. -/
def IsPlain (p : Phrase) : Prop := ∀ e ∈ p.literals, e.IsPlain

/-- What is in the literals of a phrase, or is a digit of it, is in one of the texts of its
sentence. -/
lemma not_mem_texts {p : Phrase} {c : Char} (hliterals : ∀ e ∈ p.literals, c ∉ e.body)
    (hsep : Literal.isSeparator c = false) (hdigit : c.isDigit = false) :
    ∀ l ∈ p.sentence.texts, c ∉ l := by
  have htext : ∀ e ∈ p.literals, c ∉ e.text := by
    intro e he hmem
    have hne : c ≠ e.separator := by
      rintro rfl
      rw [e.isSeparator] at hsep
      cases hsep
    simp [Literal.Enclosed.text, hne, hliterals e he] at hmem
  cases p with
  | bare v hform => simp [sentence, Sentence.texts]
  | key v e hform hkey => simpa [sentence, Sentence.texts, literals] using htext
  | scope v name hform hscope => simpa [sentence, Sentence.texts, literals] using htext
  | condition v name value hform hscope hvalue =>
    simpa [sentence, Sentence.texts, literals] using htext
  | substitution v name find replacement hform hscope hfind =>
    simpa [sentence, Sentence.texts, literals] using htext
  | percentage v digits hform hne hdigits =>
    simp only [sentence, Sentence.texts, List.forall_mem_singleton]
    intro hmem
    rw [hdigits c hmem] at hdigit
    cases hdigit

namespace IsPlain

/-- The sentence of a plain phrase has what the form of its verb asks for. -/
lemma isApt {p : Phrase} (hp : p.IsPlain) : p.sentence.IsApt :=
  isApt_sentence fun e he => (hp e he).feed

/-- The literals of a plain phrase are plain as they are written. -/
lemma steps {p : Phrase} (hp : p.IsPlain) (m : Margins) :
    ∀ q ∈ p.sentence.steps m, Literal.IsPlain q.1 := by
  have hplain : ∀ e ∈ p.literals, Literal.IsPlain e.text := by
    intro e he
    have hcore : Literal.core e.text = e.body := by simp [Literal.core, Literal.Enclosed.text]
    unfold Literal.IsPlain
    rw [hcore, Literal.Enclosed.isLiteral_text_iff]
    exact ⟨⟨Nat.zero_le _, (hp e he).feed⟩, (hp e he).isFree, (hp e he).not_isBlank⟩
  cases p <;> simp_all [sentence, Sentence.steps, literals]

/-- A line with a plain phrase has no line feeds and no sharp signs. -/
lemma not_mem_spell {p : Phrase} (hp : p.IsPlain) (m : Margins) :
    '\n' ∉ p.spell m ∧ '#' ∉ p.spell m := by
  have hkeyword : '\n' ∉ p.sentence.verb.keyword.toList ∧ '#' ∉ p.sentence.verb.keyword.toList := by
    cases p.sentence.verb <;> decide
  constructor
  · refine Sentence.not_mem_spell (fun gap => gap.isGap.2) hkeyword.1 (by decide) ?_
    exact not_mem_texts (fun e he => (hp e he).feed) (by decide) (by decide)
  · refine Sentence.not_mem_spell (fun gap hmem => ?_) hkeyword.2 (by decide) ?_
    · exact absurd (gap.isBlank '#' hmem) (by decide)
    · exact not_mem_texts (fun e he => (hp e he).sharp) (by decide) (by decide)

/-- A line with a plain phrase is the sentence that the phrase is written as. -/
lemma ofLine?_spell {p : Phrase} (hp : p.IsPlain) (m : Margins) :
    Sentence.ofLine? (p.spell m) = some p.sentence := by
  obtain ⟨hfeed, hsharp⟩ := hp.not_mem_spell m
  have hread := Sentence.isRead_spell hp.isApt m ⟨.inl rfl, List.not_mem_nil⟩
  rw [List.append_nil] at hread
  obtain ⟨s, hs⟩ := Sentence.exists_ofLine? hfeed hread
  obtain ⟨hapt, m', comment, hline, hcomment, -⟩ := Sentence.exists_spell_of_ofLine? hfeed hs
  -- there is no comment, for want of a sharp sign
  have hnone : comment = [] := by
    rcases hcomment with hnil | ⟨t, rfl⟩
    · exact hnil
    · exact absurd (hline ▸ by simp) hsharp
  rw [hnone, List.append_nil] at hline
  rw [← Sentence.eq_of_spell_eq hp.isApt hapt (hp.steps m) hline]
  exact hs

end IsPlain

end Phrase

namespace Rule

/-- **Reading what is written.** A phrase with plain literals, on a line with whatever blanks, is
read as the rule that is expected of it, with its literals as they are written. If one of them is no
pattern, or if its percentage is none, this is the error.

**Proof sketch.** The line can be read for the verb of the phrase, so it is a sentence. Of this
sentence the line is a spelling, and no other sentence than the one of the phrase has it. -/
theorem parse_spell (p : Phrase) (m : Margins) (hp : p.IsPlain) :
    parse (p.spell m) = (p.outcome Literal.Enclosed.body (p.spell m)).map some := by
  have hread := Sentence.isRead_spell hp.isApt m ⟨.inl rfl, List.not_mem_nil⟩
  rw [List.append_nil] at hread
  have hcompile : p.sentence.compile (p.spell m) = p.outcome Literal.Enclosed.body (p.spell m) :=
    Phrase.compile_sentence fun e he => (hp e he).decode_text _
  rw [parse, if_neg (by simp [Phrase.spell, hread.isTail_eq_false]), hp.ofLine?_spell m]
  exact congrArg (Except.map some) hcompile

/-- The verb of a rule and a comma may stand in its literals, and a replacement may be empty. -/
theorem parse_spell_replace :
    ∃ (p : Phrase) (m : Margins) (q r : Pattern), p.IsPlain ∧
      p.spell m = "\t~a replace b~replace %x, y%,  !!".toList ∧
      Pattern.compile? "^a replace b$".toList = some q ∧ Pattern.compile? "x, y".toList = some r ∧
      parse (p.spell m) = .ok (some ⟨.replace, some q, .pattern r, some ⟨[], []⟩⟩) := by
  let p : Phrase := .substitution .replace ⟨'~', "a replace b".toList, by decide⟩
    ⟨'%', "x, y".toList, by decide⟩ ⟨'!', [], by decide⟩ rfl (by decide) (by decide)
  let m : Margins := ⟨⟨['\t'], by decide⟩, .empty, .space, ⟨[' ', ' '], by decide⟩, .empty,
    by decide, by decide⟩
  have hp : p.IsPlain := by
    simp only [p, Phrase.IsPlain, Phrase.literals, List.forall_mem_cons]
    exact ⟨⟨by decide, by decide, by decide, by decide⟩,
      ⟨by decide, by decide, by decide, by decide⟩,
      ⟨by decide, by decide, by decide, by decide⟩, by simp⟩
  obtain ⟨q, hq⟩ : ∃ q, Pattern.compile? "^a replace b$".toList = some q := ⟨_, rfl⟩
  obtain ⟨r, hr⟩ : ∃ r, Pattern.compile? "x, y".toList = some r := ⟨_, rfl⟩
  have hanchor : Literal.anchor "a replace b".toList = "^a replace b$".toList := by decide
  have hrule : p.outcome Literal.Enclosed.body (p.spell m) =
      .ok ⟨.replace, some q, .pattern r, some ⟨[], []⟩⟩ := by
    simp only [p, Phrase.outcome, Literal.compile, hanchor, hq, hr]
    rfl
  refine ⟨p, m, q, r, hp, by decide, hq, hr, ?_⟩
  rw [parse_spell p m hp, hrule]
  rfl

/-- A rule has the fields that its verb asks for, and no others. -/
structure HasFields (rule : Rule) : Prop where
  /-- Just the rules about fields have a scope. -/
  scope : rule.scope.isSome ↔ rule.verb ∈
    ([.remove, .removeIf, .removeIfFound, .removeUnless, .removeUnlessFound, .replace, .stop,
      .stopIf, .stopIfFound, .stopUnless, .stopUnlessFound] : List Verb)
  /-- Just the rules about keys or values have a pattern. -/
  pattern : rule.param.pattern?.isSome ↔ rule.verb ∈
    ([.copySessionField, .removeIf, .removeIfFound, .removeUnless, .removeUnlessFound, .replace,
      .stopIf, .stopIfFound, .stopUnless, .stopUnlessFound] : List Verb)
  /-- Just sample rules have a percentage. -/
  percent : rule.param.percent?.isSome ↔ rule.verb = .sample
  /-- It is between one and ninety-nine. -/
  percent_bounds : ∀ n, rule.param.percent? = some n → 1 ≤ n ∧ n ≤ 99
  /-- Just the rules that replace have a replacement. -/
  substitution : rule.substitution.isSome ↔ rule.verb = .replace
  /-- It refers to the groups of the pattern. -/
  template : ∀ p s, rule.param.pattern? = some p → rule.substitution = some s →
    s.template = Replacement.toTemplate p.groups s.written

/-- Rules with the form of their verb have its fields. -/
lemma HasForm.hasFields {rule : Rule} (h : rule.HasForm) : rule.HasFields := by
  obtain ⟨verb, scope, param, substitution⟩ := rule
  unfold HasForm at h
  cases hform : verb.form <;> simp only [hform] at h
  case' bare => obtain ⟨rfl, rfl, rfl⟩ := h
  case' key => obtain ⟨rfl, ⟨p, rfl⟩, rfl⟩ := h
  case' scope => obtain ⟨⟨p, rfl⟩, rfl, rfl⟩ := h
  case' condition => obtain ⟨⟨p, rfl⟩, ⟨q, rfl⟩, rfl⟩ := h
  case' substitution => obtain ⟨⟨p, rfl⟩, q, written, rfl, rfl⟩ := h
  case' percentage => obtain ⟨rfl, ⟨n, rfl, hbounds⟩, rfl⟩ := h
  all_goals
    constructor <;> cases verb <;> simp_all [Param.pattern?, Param.percent?, Verb.form]

/-- A line without line feeds is skipped if it starts with a comment behind its blanks, or has
nothing else. -/
lemma parse_eq_none_iff {line : List Char} (hfeed : '\n' ∉ line) :
    parse line = .ok none ↔ Text.trimLeft line = [] ∨ ∃ t, Text.trimLeft line = '#' :: t := by
  have hnone : parse line = .ok none ↔ Part.isTail line = true := by
    unfold parse
    cases Part.isTail line with
    | true => simp
    | false =>
      cases Sentence.ofLine? line with
      | none => simp
      | some s => cases hs : s.compile line <;> simp [Except.map, hs]
  have htrim : '\n' ∉ Text.trimLeft line :=
    fun hmem => hfeed ((List.dropWhile_suffix _).subset hmem)
  rw [hnone, Part.isTail]
  generalize Text.trimLeft line = t at htrim
  split
  · simp
  · next t => simpa using htrim
  · next hnil hsharp => simpa using ⟨hnil, hsharp⟩

/-- **What can be read.** Of the lines without line feeds those are skipped that are blank or
comments. Each other line that is read is a spelling of a phrase, with a comment behind it or none;
in the literals of this phrase the separators around them are escaped, and the rule is what is
expected of it if escaped separators stand for themselves. So the rule has just the fields that its
verb asks for.

**Proof sketch.** The line is some sentence, of which it is a spelling, and the rule is compiled
from this sentence. Its literals could be decoded, so each of them is a text between two separators
that are escaped in it; hence it is a phrase. -/
theorem parse_sound {line : List Char} (hfeed : '\n' ∉ line) :
    (parse line = .ok none ↔ Text.trimLeft line = [] ∨ ∃ t, Text.trimLeft line = '#' :: t) ∧
      ∀ rule, parse line = .ok (some rule) →
        (∃ (p : Phrase) (m : Margins) (comment : List Char),
          line = p.spell m ++ comment ∧ Text.IsComment comment ∧
            (∀ e ∈ p.literals, e.IsEscaped) ∧
            p.outcome Literal.Enclosed.meaning line = .ok rule) ∧
          rule.HasFields := by
  refine ⟨parse_eq_none_iff hfeed, fun rule h => ⟨?_, (hasForm_of_parse h).hasFields⟩⟩
  obtain ⟨-, s, hs, hrule⟩ := parse_eq_some_iff.mp h
  obtain ⟨hapt, m, comment, hline, hcomment⟩ := Sentence.exists_spell_of_ofLine? hfeed hs
  obtain ⟨p, rfl, hescaped⟩ := Phrase.exists_of_compile hapt hrule
  refine ⟨p, m, comment, hline, hcomment, hescaped, ?_⟩
  have hcompile : p.sentence.compile line = p.outcome Literal.Enclosed.meaning line :=
    Phrase.compile_sentence fun e he => Literal.Enclosed.decode_text (hescaped e he) line
  rw [← hcompile]
  exact hrule

/-- A separator that is escaped in a scope stands for itself, and a comment is left out. -/
theorem parse_sound_escaped :
    ∃ rule, parse "/a\\/b/ remove # c".toList = .ok (some rule) ∧
      (∃ (p : Phrase) (m : Margins) (comment : List Char),
        "/a\\/b/ remove # c".toList = p.spell m ++ comment ∧ Text.IsComment comment ∧
          (∀ e ∈ p.literals, e.IsEscaped) ∧
          p.outcome Literal.Enclosed.meaning "/a\\/b/ remove # c".toList = .ok rule) ∧
      rule.scope.map (·.text) = some "^a/b$".toList ∧ rule.HasFields := by
  have hrule : parse "/a\\/b/ remove # c".toList =
      .ok (some ⟨.remove, Pattern.compile? "^a/b$".toList, .none, none⟩) := by rfl
  obtain ⟨hphrase, hfields⟩ :=
    (@parse_sound "/a\\/b/ remove # c".toList (by decide)).2 _ hrule
  exact ⟨_, hrule, hphrase, by rfl, hfields⟩

end Rule

end HttpAudit
