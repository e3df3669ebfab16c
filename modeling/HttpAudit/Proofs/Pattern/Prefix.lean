import HttpAudit.Proofs.Pattern.Spans

set_option relaxedAutoImplicit false
set_option autoImplicit false

/-!
# What is left of a pattern behind a given text

If the start of a text is given, a pattern can be followed along it, one character after the other,
and there remain some patterns of which one must match from there on. So a match of a text of which
only the start is known comes down to a computation and to a match of the rest.

## Main definitions

* `HttpAudit.Pattern.Node.passes` — a pattern matches the empty text at a place.
* `HttpAudit.Pattern.Node.after` — what can be left of a pattern behind a character.
* `HttpAudit.Pattern.Node.Fits` — a pattern matches from a place on.
* `HttpAudit.Pattern.afterAll`, `HttpAudit.Pattern.passesWithin` — the same along a text.
* `HttpAudit.Pattern.behind?` — what is left of a pattern with an anchor at its start.

## Main results

* `HttpAudit.Pattern.spans_cons_iff` — a match that consumes a character.
* `HttpAudit.Pattern.fits_append_iff` — a match of a text whose start is given.
* `HttpAudit.Pattern.isMatch_append_iff` — a match of a text whose start is given, with an anchor at
  the start of the pattern.
-/

namespace HttpAudit.Pattern

/-! ## Without a character -/

/-- Whether the pattern matches the empty text between two neighbouring characters, of which the
ends of the text lack one. -/
def Node.passes (before next : Option Char) : Node → Bool
  | .empty => true
  | .chars _ => false
  | .assert assertion => assertion.holds before next
  | .group _ body => body.passes before next
  | .cat a b => a.passes before next && b.passes before next
  | .alt a b => a.passes before next || b.passes before next
  | .plus _ body => body.passes before next

/-- Two places that are reached from each other are the same. -/
lemma Place.Reaches.antisymm {p q : Place} (h : p.Reaches q) (h' : q.Reaches p) : q = p := by
  rcases h with rfl | h
  · rfl
  · rcases h' with rfl | h'
    · rfl
    · omega

/-- A pattern matches the empty text at a place if it passes there. -/
lemma spans_self_iff {node : Node} {p : Place} :
    Spans node p p ↔ node.passes p.before.head? p.rest.head? = true := by
  induction node with
  | empty => exact iff_of_true (.empty p) rfl
  | chars cls =>
    obtain ⟨before, rest⟩ := p
    refine iff_of_false (fun h => ?_) (by simp [Node.passes])
    cases h
  | assert assertion =>
    refine ⟨fun h => ?_, .assert⟩
    cases h with
    | assert h => exact h
  | group index body ih =>
    rw [Node.passes, ← ih]
    refine ⟨fun h => ?_, .group⟩
    cases h with
    | group h => exact h
  | cat a b iha ihb =>
    rw [Node.passes, Bool.and_eq_true, ← iha, ← ihb]
    constructor
    · intro h
      cases h with
      | cat ha hb =>
        obtain rfl := ha.reaches.antisymm hb.reaches
        exact ⟨ha, hb⟩
    · rintro ⟨ha, hb⟩
      exact .cat ha hb
  | alt a b iha ihb =>
    rw [Node.passes, Bool.or_eq_true, ← iha, ← ihb]
    constructor
    · intro h
      cases h with
      | left h => exact .inl h
      | right h => exact .inr h
    · rintro (h | h)
      · exact .left h
      · exact .right h
  | plus greedy body ih =>
    rw [Node.passes, ← ih]
    refine ⟨fun h => ?_, .once⟩
    rcases h.exists_round with h | ⟨q, hq, hone, hmore⟩
    · exact h
    · exact absurd (hone.reaches.antisymm hmore.reaches) hq

/-! ## Behind a character -/

/-- What can be left of the pattern behind the character `c`, with `before` the character before
it. -/
def Node.after (before : Option Char) (c : Char) : Node → List Node
  | .empty | .assert _ => []
  | .chars cls => if cls.contains c.toNat then [.empty] else []
  | .group _ body => body.after before c
  | .cat a b =>
    (a.after before c).map (·.append b) ++
      if a.passes before (some c) then b.after before c else []
  | .alt a b => a.after before c ++ b.after before c
  | .plus greedy body =>
    (body.after before c).flatMap fun rest => [rest, rest.append (.plus greedy body)]

/-- Leaving out an empty pattern changes nothing. -/
lemma spans_append_iff {a b : Node} {p q : Place} :
    Spans (a.append b) p q ↔ Spans (.cat a b) p q := by
  unfold Node.append
  split
  · refine ⟨.cat (.empty p), fun h => ?_⟩
    cases h with
    | cat ha hb =>
      cases ha
      exact hb
  · refine ⟨fun h => .cat h (.empty q), fun h => ?_⟩
    cases h with
    | cat ha hb =>
      cases hb
      exact ha
  · rfl

/-- A match that consumes a character is a match of what is left behind it. -/
lemma spans_cons_iff {node : Node} {before rest : List Char} {c : Char} {q : Place} :
    (Spans node ⟨before, c :: rest⟩ q ∧ q ≠ ⟨before, c :: rest⟩) ↔
      ∃ r ∈ node.after before.head? c, Spans r ⟨c :: before, rest⟩ q := by
  induction node generalizing q with
  | empty =>
    simp only [Node.after, List.not_mem_nil, false_and, exists_false, iff_false, not_and, not_not]
    intro h
    cases h
    rfl
  | assert assertion =>
    simp only [Node.after, List.not_mem_nil, false_and, exists_false, iff_false, not_and, not_not]
    intro h
    cases h
    rfl
  | chars cls =>
    constructor
    · rintro ⟨h, -⟩
      cases h with
      | chars hc => exact ⟨.empty, by simp [Node.after, hc], .empty _⟩
    · rintro ⟨r, hr, h⟩
      by_cases hc : cls.contains c.toNat = true
      · obtain rfl : r = .empty := by simpa [Node.after, hc] using hr
        cases h
        exact ⟨.chars hc, Place.Reaches.ne (.refl _)⟩
      · simp [Node.after, hc] at hr
  | group index body ih =>
    rw [Node.after, ← ih]
    refine and_congr_left fun _ => ⟨fun h => ?_, .group⟩
    cases h with
    | group h => exact h
  | cat a b iha ihb =>
    simp only [Node.after, List.mem_append, List.mem_map]
    constructor
    · rintro ⟨h, hq⟩
      cases h with
      | @cat _ _ _ m _ ha hb =>
        by_cases hm : m = ⟨before, c :: rest⟩
        · subst hm
          obtain ⟨r, hr, hspans⟩ := ihb.mp ⟨hb, hq⟩
          have hpass : a.passes before.head? (some c) = true := spans_self_iff.mp ha
          exact ⟨r, .inr (by rw [if_pos hpass]; exact hr), hspans⟩
        · obtain ⟨r, hr, hspans⟩ := iha.mp ⟨ha, hm⟩
          exact ⟨_, .inl ⟨r, hr, rfl⟩, spans_append_iff.mpr (.cat hspans hb)⟩
    · rintro ⟨r, (⟨r, hr, rfl⟩ | hr), h⟩
      · cases spans_append_iff.mp h with
        | cat ha hb =>
          exact ⟨.cat (iha.mpr ⟨r, hr, ha⟩).1 hb, (ha.reaches.trans hb.reaches).ne⟩
      · split_ifs at hr with hpass
        · exact ⟨.cat (spans_self_iff.mpr hpass) (ihb.mpr ⟨r, hr, h⟩).1, h.reaches.ne⟩
        · cases hr
  | alt a b iha ihb =>
    simp only [Node.after, List.mem_append, or_and_right, exists_or, ← iha, ← ihb]
    constructor
    · rintro ⟨h, hq⟩
      cases h with
      | left h => exact .inl ⟨h, hq⟩
      | right h => exact .inr ⟨h, hq⟩
    · rintro (⟨h, hq⟩ | ⟨h, hq⟩)
      · exact ⟨.left h, hq⟩
      · exact ⟨.right h, hq⟩
  | plus greedy body ih =>
    simp only [Node.after, List.mem_flatMap, List.mem_cons, List.not_mem_nil, or_false]
    constructor
    · rintro ⟨h, hq⟩
      rcases h.exists_round with h | ⟨m, hm, hone, hmore⟩
      · obtain ⟨r, hr, hspans⟩ := ih.mp ⟨h, hq⟩
        exact ⟨r, ⟨r, hr, .inl rfl⟩, hspans⟩
      · obtain ⟨r, hr, hspans⟩ := ih.mp ⟨hone, hm⟩
        exact ⟨_, ⟨r, hr, .inr rfl⟩, spans_append_iff.mpr (.cat hspans hmore)⟩
    · rintro ⟨r, ⟨r', hr', (rfl | rfl)⟩, h⟩
      · exact ⟨.once (ih.mpr ⟨r, hr', h⟩).1, h.reaches.ne⟩
      · cases spans_append_iff.mp h with
        | cat ha hb =>
          exact ⟨.more (ih.mpr ⟨r', hr', ha⟩).1 hb, (ha.reaches.trans hb.reaches).ne⟩

/-! ## Along a text -/

/-- The pattern matches from the place on. -/
def Node.Fits (node : Node) (p : Place) : Prop := ∃ q, Spans node p q

/-- Before a character a pattern matches if it passes or something that is left of it behind the
character matches. -/
lemma fits_cons_iff {node : Node} {before rest : List Char} {c : Char} :
    node.Fits ⟨before, c :: rest⟩ ↔
      node.passes before.head? (some c) = true ∨
        ∃ r ∈ node.after before.head? c, r.Fits ⟨c :: before, rest⟩ := by
  constructor
  · rintro ⟨q, h⟩
    by_cases hq : q = ⟨before, c :: rest⟩
    · subst hq
      exact .inl (spans_self_iff.mp h)
    · obtain ⟨r, hr, hspans⟩ := spans_cons_iff.mp ⟨h, hq⟩
      exact .inr ⟨r, hr, q, hspans⟩
  · rintro (h | ⟨r, hr, q, h⟩)
    · exact ⟨_, spans_self_iff.mpr h⟩
    · exact ⟨q, (spans_cons_iff.mpr ⟨r, hr, h⟩).1⟩

/-- What can be left of the patterns behind a text, with `before` the character before it. -/
def afterAll (before : Option Char) : List Char → List Node → List Node
  | [], nodes => nodes
  | c :: w, nodes => afterAll (some c) w (nodes.flatMap (·.after before c))

/-- Whether what is left of the patterns passes somewhere within a text. -/
def passesWithin (before : Option Char) : List Char → List Node → Bool
  | [], _ => false
  | c :: w, nodes =>
    nodes.any (·.passes before (some c)) ||
      passesWithin (some c) w (nodes.flatMap (·.after before c))

/-- Of some patterns one matches a text whose start is given if it passes within the start or if
something that is left of them behind the start matches. -/
lemma fits_append_iff {nodes : List Node} {before w rest : List Char} :
    (∃ node ∈ nodes, node.Fits ⟨before, w ++ rest⟩) ↔
      passesWithin before.head? w nodes = true ∨
        ∃ r ∈ afterAll before.head? w nodes, r.Fits ⟨w.reverse ++ before, rest⟩ := by
  induction w generalizing before nodes with
  | nil => simp [passesWithin, afterAll]
  | cons c w ih =>
    have hrest := @ih (nodes.flatMap (·.after before.head? c)) (c :: before)
    have hfits : (∃ node ∈ nodes, node.Fits ⟨before, c :: (w ++ rest)⟩) ↔
        (∃ node ∈ nodes, node.passes before.head? (some c) = true) ∨
          ∃ r ∈ nodes.flatMap (·.after before.head? c), r.Fits ⟨c :: before, w ++ rest⟩ := by
      simp only [fits_cons_iff, List.mem_flatMap, and_or_left, exists_or]
      refine or_congr_right ⟨?_, ?_⟩
      · rintro ⟨node, hnode, r, hr, h⟩
        exact ⟨r, ⟨node, hnode, hr⟩, h⟩
      · rintro ⟨r, ⟨node, hnode, hr⟩, h⟩
        exact ⟨node, hnode, r, hr, h⟩
    rw [List.cons_append, hfits, hrest]
    simp only [passesWithin, afterAll, Bool.or_eq_true, List.any_eq_true, List.head?_cons,
      List.reverse_cons, List.append_assoc, List.singleton_append, or_assoc]

/-- A pattern with an anchor at its start matches a text if the rest of it matches from the start of
the text on. -/
lemma isMatch_iff_fits {p : Pattern} {node : Node} {s : List Char}
    (h : p.node = .cat (.assert .startText) node) : p.isMatch s = true ↔ node.Fits ⟨[], s⟩ := by
  rw [isMatch_iff, h]
  constructor
  · rintro ⟨w, t, q, rfl, hspans⟩
    cases hspans with
    | cat ha hb =>
      cases ha with
      | assert hstart =>
        obtain rfl : w = [] := by simpa [Assertion.holds] using hstart
        exact ⟨q, hb⟩
  · rintro ⟨q, hspans⟩
    exact ⟨[], s, q, rfl, .cat (.assert rfl) hspans⟩

/-- What can be left behind the start of a text of a pattern with an anchor at its start, unless it
passes before. -/
def behind? (w : List Char) (p : Pattern) : Option (List Node) :=
  match p.node with
  | .cat (.assert .startText) node =>
    if passesWithin none w [node] then none else some (afterAll none w [node])
  | _ => none

/-- A pattern with an anchor at its start matches a text if something that is left of it behind the
start of the text matches the rest. -/
lemma isMatch_append_iff {p : Pattern} {w : List Char} {nodes : List Node}
    (h : p.behind? w = some nodes) (s : List Char) :
    p.isMatch (w ++ s) = true ↔ ∃ r ∈ nodes, r.Fits ⟨w.reverse, s⟩ := by
  unfold behind? at h
  split at h
  case h_1 node hnode =>
    split_ifs at h with hpass
    obtain rfl := Option.some.inj h
    have hfits := @fits_append_iff [node] [] w s
    simp only [List.head?_nil, hpass, Bool.false_eq_true, false_or, List.append_nil] at hfits
    rw [isMatch_iff_fits hnode, ← hfits]
    simp
  case h_2 => cases h

end HttpAudit.Pattern
