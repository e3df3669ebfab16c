import HttpAudit.Pattern.Search
import Mathlib.Tactic.Common

set_option relaxedAutoImplicit false
set_option autoImplicit false

/-!
# Matching with a continuation

What the search of a pattern means: a pattern is tried at a place of a text, in the order of
preference, with a continuation that says how the match goes on behind it. The search itself does
not proceed in this way, since the number of tries may be huge. It goes through the text from its
end to its start and keeps what the continuations of all characters of the pattern give at one
place. Here it is shown that both find the same.

## Main definitions

* `HttpAudit.Pattern.Place` — a place of a text.
* `HttpAudit.Pattern.Node.run` — the preferred match of a pattern at a place.
* `HttpAudit.Pattern.Node.column` — the column of a pattern at a place, by its meaning.

## Main results

* `HttpAudit.Pattern.run_congr` — only places further on matter for a match.
* `HttpAudit.Pattern.step_column` — what a step of the search finds, and the column that it leaves.
* `HttpAudit.Pattern.scan_eq` — the search finds the preferred match at each place.
-/

namespace HttpAudit.Pattern

/-! ## Places -/

/-- A place of a text. -/
structure Place where
  /-- The text before it, last character first. -/
  before : List Char
  /-- The text behind it. -/
  rest : List Char
  deriving DecidableEq

namespace Place

/-- The number of characters before the place. -/
def offset (p : Place) : Nat := p.before.length

/-- What a step of the search knows of the place. -/
def spot (p : Place) : Spot := ⟨p.before.length, p.before.head?, p.rest.head?⟩

/-- The place behind the next character. -/
def next? (p : Place) : Option Place :=
  match p.rest with
  | [] => none
  | c :: rest => some ⟨c :: p.before, rest⟩

/-- A place is reached from another one if it is the same or lies behind it. -/
def Reaches (p q : Place) : Prop := q = p ∨ q.rest.length < p.rest.length

/-- The place is reached from itself. -/
lemma Reaches.refl (p : Place) : p.Reaches p := .inl rfl

/-- What is reached in two stretches is reached. -/
lemma Reaches.trans {p q r : Place} (h : p.Reaches q) (h' : q.Reaches r) : p.Reaches r := by
  rcases h with rfl | h
  · exact h'
  · rcases h' with rfl | h'
    · exact .inr h
    · exact .inr (Nat.lt_trans h' h)

/-- A place behind a character is not the one before it. -/
lemma Reaches.ne {before rest : List Char} {c : Char} {q : Place}
    (h : (⟨c :: before, rest⟩ : Place).Reaches q) : q ≠ ⟨before, c :: rest⟩ := by
  rintro rfl
  rcases h with h | h
  · have hlength : (c :: rest).length = rest.length := congrArg (fun q : Place => q.rest.length) h
    rw [List.length_cons] at hlength
    omega
  · have hlt : (c :: rest).length < rest.length := h
    rw [List.length_cons] at hlt
    omega

end Place

/-- How a match goes on from each place. -/
abbrev Cont := Place → Option Found

/-- The match where only the end of the pattern is to come. -/
def goal : Cont := fun p => some ⟨p.offset, []⟩

/-! ## Preferred matches -/

/-- How a repetition goes on behind a round: by another round that consumes a character, or by the
continuation. -/
def follow (body : Cont → Cont) (greedy : Bool) (k : Cont) (p : Place) : Option Found :=
  let again := body (fun q =>
    if _ : q.rest.length < p.rest.length then follow body greedy k q else none) p
  if greedy then again.or (k p) else (k p).or again
termination_by p.rest.length

/-- The preferred match of a pattern at a place. -/
def Node.run : Node → Cont → Cont
  | .empty, k, p => k p
  | .chars cls, k, p =>
    match p.rest with
    | [] => none
    | c :: rest => if cls.contains c.toNat then k ⟨c :: p.before, rest⟩ else none
  | .assert assertion, k, p => if assertion.holds p.before.head? p.rest.head? then k p else none
  | .group index body, k, p =>
    (body.run (fun q => (k q).map (Found.after [⟨index, false, q.offset⟩])) p).map
      (Found.after [⟨index, true, p.offset⟩])
  | .cat a b, k, p => a.run (b.run k) p
  | .alt a b, k, p => (a.run k p).or (b.run k p)
  | .plus greedy body, k, p =>
    body.run (fun q => if q = p then k p else follow body.run greedy k q) p

/-- Rounds of a repetition depend on places further on only. -/
lemma follow_congr {body : Cont → Cont} {greedy : Bool} {k k' : Cont}
    (hbody : ∀ {k k' : Cont} {p : Place}, (∀ q, p.Reaches q → k q = k' q) → body k p = body k' p)
    {p : Place} (h : ∀ q, p.Reaches q → k q = k' q) :
    follow body greedy k p = follow body greedy k' p := by
  induction hn : p.rest.length using Nat.strongRecOn generalizing p with
  | ind n ih =>
    have hagain : body (fun q =>
          if _ : q.rest.length < p.rest.length then follow body greedy k q else none) p =
        body (fun q =>
          if _ : q.rest.length < p.rest.length then follow body greedy k' q else none) p := by
      refine hbody fun q _ => ?_
      split_ifs with hq
      · exact ih q.rest.length (hn ▸ hq) (fun r hr => h r (Place.Reaches.trans (.inr hq) hr)) rfl
      · rfl
    rw [follow, follow, hagain, h p (.refl p)]

/-- Only places further on matter for a match. -/
lemma run_congr {node : Node} {k k' : Cont} {p : Place} (h : ∀ q, p.Reaches q → k q = k' q) :
    node.run k p = node.run k' p := by
  induction node generalizing k k' p with
  | empty => exact h p (.refl p)
  | chars cls =>
    unfold Node.run
    cases hrest : p.rest with
    | nil => rfl
    | cons c rest =>
      simp only
      rw [h ⟨c :: p.before, rest⟩ (.inr (by simp [hrest]))]
  | assert assertion => rw [Node.run, Node.run, h p (.refl p)]
  | group index body ih =>
    rw [Node.run, Node.run, ih fun q hq => by rw [h q hq]]
  | cat a b iha ihb =>
    exact iha fun q hq => ihb fun r hr => h r (hq.trans hr)
  | alt a b iha ihb => rw [Node.run, Node.run, iha h, ihb h]
  | plus greedy body ih =>
    refine ih fun q hq => ?_
    rw [h p (.refl p), follow_congr ih fun r hr => h r (hq.trans hr)]

/-! ## Choices -/

/-- A match with no further marks is the match. -/
lemma Found.after_nil : Found.after [] = id := rfl

/-- Marks are put before a match one after the other. -/
lemma Found.after_append (marks marks' : List Mark) (f : Found) :
    f.after (marks ++ marks') = (f.after marks').after marks := by
  simp [Found.after]

/-- Marks before the preferred of two matches. -/
lemma map_or {f g : Option Found} {h : Found → Found} :
    (f.or g).map h = (f.map h).or (g.map h) := by
  cases f <;> rfl

namespace Choice

variable {a b : Choice} {k : Option Found}

/-- The match of a choice, given what follows. -/
lemma value_eq : a.value k =
    (a.first.or (a.pass.bind fun marks => k.map (Found.after marks))).or a.later := by
  simp only [value, Option.orElse_eq_orElse, Option.orElse_eq_or, Option.or_assoc]

/-- What passes through finds what follows. -/
lemma value_through : (through []).value k = k := by
  simp [value_eq, through, Found.after_nil]

/-- What fails finds nothing. -/
lemma value_fail : fail.value k = none := rfl

/-- Marks around a choice. -/
lemma value_enclose {opening closing : Mark} :
    (a.enclose opening closing).value k =
      (a.value (k.map (Found.after [closing]))).map (Found.after [opening]) := by
  simp only [value_eq, enclose, map_or]
  congr 2
  cases a.pass with
  | none => rfl
  | some marks =>
    cases k with
    | none => rfl
    | some f => simp [Found.after]

/-- A choice between two choices. -/
lemma value_orElse : (a.orElse b).value k = (a.value k).or (b.value k) := by
  simp only [value_eq, orElse, Option.orElse_eq_orElse, Option.orElse_eq_or]
  cases a.first <;> cases a.pass <;> cases a.later <;> cases k <;> simp

/-- A choice behind another one. -/
lemma value_andThen : (a.andThen b).value k = a.value (b.value k) := by
  simp only [value_eq, andThen, Option.orElse_eq_orElse, Option.orElse_eq_or]
  cases ha : a.pass with
  | none => cases a.first <;> simp
  | some marks =>
    have hpass : ((b.pass.map (marks ++ ·)).bind fun marks => k.map (Found.after marks)) =
        (b.pass.bind fun marks => k.map (Found.after marks)).map (Found.after marks) := by
      cases b.pass <;> cases k <;> simp [Found.after_append]
    simp only [hpass, Option.bind_some, map_or, Option.or_assoc]

end Choice

/-! ## Columns -/

/-- The column of a pattern at a place, if there is one, by its meaning: each character of the
pattern has the match that its continuation finds there. -/
def Node.column : Node → Cont → Option Place → Column
  | .empty, _, _ => .empty
  | .chars cls, k, p => .chars cls (p.bind k)
  | .assert assertion, _, _ => .assert assertion
  | .group index body, k, p =>
    .group index (body.column (fun q => (k q).map (Found.after [⟨index, false, q.offset⟩])) p)
  | .cat a b, k, p => .cat (a.column (b.run k) p) (b.column k p)
  | .alt a b, k, p => .alt (a.column k p) (b.column k p)
  | .plus greedy body, k, p => .plus greedy (body.column (follow body.run greedy k) p)

/-- Behind the end of a text the columns are empty. -/
lemma column_none (node : Node) (k : Cont) : node.column k none = .ofNode node := by
  induction node generalizing k with
  | empty | chars | assert => rfl
  | group index body ih => simp only [Node.column, Column.ofNode, ih]
  | cat a b iha ihb => simp only [Node.column, Column.ofNode, iha, ihb]
  | alt a b iha ihb => simp only [Node.column, Column.ofNode, iha, ihb]
  | plus greedy body ih => simp only [Node.column, Column.ofNode, ih]

/-- The continuation with another match at one place. -/
def Cont.at (k : Cont) (p : Place) (f : Option Found) : Cont := fun q => if q = p then f else k q

/-- The continuation with its own match at a place is the continuation. -/
lemma Cont.at_self (k : Cont) (p : Place) : k.at p (k p) = k := by
  funext q
  by_cases hq : q = p <;> simp [Cont.at, hq]

/-- At the place the other match counts. -/
@[simp] lemma Cont.at_same (k : Cont) (p : Place) (f : Option Found) : k.at p f p = f := by
  simp [Cont.at]

/-- At places behind one that is reached the other match does not count. -/
lemma Cont.at_of_reaches (k : Cont) {p q r : Place} (f : Option Found) (hq : p.Reaches q)
    (hne : q ≠ p) (hr : q.Reaches r) : k.at p f r = k r := by
  have hrp : r ≠ p := by
    have hlt := hq.resolve_left hne
    rintro rfl
    rcases hr with rfl | hr
    · exact hne rfl
    · omega
  simp [Cont.at, hrp]

/-- **A step of the search.** At a place, given the column of a pattern behind the next character, a
step finds for every match of what follows the preferred match of the pattern, and leaves the column
of the pattern at the place.

**Proof sketch.** Induction on the pattern. Where two patterns stand one behind the other, the
second one is the continuation of the first one, and at places further on it does not depend on
what is found here. A repetition that comes back to the place has not consumed a character, so the
value of its body without anything that follows here is that of another round. -/
lemma step_column (node : Node) (k : Cont) (p : Place) :
    (∀ f, ((node.column k p.next?).step p.spot).1.value f = node.run (k.at p f) p) ∧
      ((node.column k p.next?).step p.spot).2 (k p) = node.column k (some p) := by
  induction node generalizing k with
  | empty =>
    refine ⟨fun f => ?_, rfl⟩
    rw [Node.run, Cont.at_same]
    exact Choice.value_through
  | chars cls =>
    refine ⟨fun f => ?_, rfl⟩
    cases hrest : p.rest with
    | nil => simp [Node.run, Node.column, Column.step, Place.spot, hrest, Choice.value_eq]
    | cons c rest =>
      have hne : (⟨c :: p.before, rest⟩ : Place) ≠ p := by
        intro h
        have hlength := congrArg (fun q : Place => q.rest.length) h
        simp [hrest] at hlength
      simp only [Node.run, Node.column, Column.step, Place.spot, Place.next?, hrest,
        Choice.value_eq, List.head?_cons, Option.bind_some, Option.bind_none, Option.or_none,
        Cont.at, hne, if_false]
      cases k ⟨c :: p.before, rest⟩ <;> simp
  | assert assertion =>
    refine ⟨fun f => ?_, rfl⟩
    rw [Node.run, Cont.at_same, Node.column, Column.step, Place.spot]
    split_ifs
    · exact Choice.value_through
    · exact Choice.value_fail
  | group index body ih =>
    obtain ⟨hvalue, hfill⟩ := ih fun q => (k q).map (Found.after [⟨index, false, q.offset⟩])
    refine ⟨fun f => ?_, ?_⟩
    · simp only [Node.column, Column.step, Choice.value_enclose]
      rw [hvalue, Node.run]
      congr 2
      funext q
      by_cases hq : q = p
      · subst hq
        simp only [Cont.at_same]
        rfl
      · simp only [Cont.at, hq, if_false]
    · simp only [Node.column, Column.step]
      exact congrArg (Column.group index) hfill
  | cat a b iha ihb =>
    obtain ⟨hvalueA, hfillA⟩ := iha (b.run k)
    obtain ⟨hvalueB, hfillB⟩ := ihb k
    refine ⟨fun f => ?_, ?_⟩
    · simp only [Node.column, Column.step, Choice.value_andThen]
      rw [hvalueB, hvalueA, Node.run]
      refine run_congr fun q hq => ?_
      by_cases hqp : q = p
      · subst hqp
        exact Cont.at_same ..
      · -- behind the place what follows at the place does not matter
        rw [Cont.at_of_reaches _ _ hq hqp (.refl q)]
        exact run_congr fun r hr => (k.at_of_reaches f hq hqp hr).symm
    · simp only [Node.column, Column.step]
      rw [hvalueB, Cont.at_self, hfillA, hfillB]
  | alt a b iha ihb =>
    obtain ⟨hvalueA, hfillA⟩ := iha k
    obtain ⟨hvalueB, hfillB⟩ := ihb k
    refine ⟨fun f => ?_, ?_⟩
    · simp only [Node.column, Column.step, Choice.value_orElse, Node.run, hvalueA, hvalueB]
    · simp only [Node.column, Column.step, hfillA, hfillB]
  | plus greedy body ih =>
    obtain ⟨hvalue, hfill⟩ := ih (follow body.run greedy k)
    have hagain : body.run (Cont.at (follow body.run greedy k) p none) p = body.run (fun q =>
        if _ : q.rest.length < p.rest.length then follow body.run greedy k q else none) p := by
      refine run_congr fun q hq => ?_
      by_cases hqp : q = p
      · subst hqp
        simp
      · rw [Cont.at_of_reaches _ _ hq hqp (.refl q), dif_pos (hq.resolve_left hqp)]
    refine ⟨fun f => ?_, ?_⟩
    · simp only [Node.column, Column.step]
      rw [hvalue, Node.run]
      refine run_congr fun q hq => ?_
      by_cases hqp : q = p
      · subst hqp
        simp only [Cont.at_same, if_true]
      · rw [Cont.at_of_reaches _ _ hq hqp (.refl q), if_neg hqp]
        exact follow_congr run_congr fun r hr => (k.at_of_reaches f hq hqp hr).symm
    · have hfollow : follow body.run greedy k p =
          if greedy then ((((body.column (follow body.run greedy k) p.next?).step p.spot).1.value
            none) <|> k p)
          else k p <|> (((body.column (follow body.run greedy k) p.next?).step p.spot).1.value
            none) := by
        rw [follow, hvalue, hagain]
        simp only [Option.orElse_eq_orElse, Option.orElse_eq_or]
      simp only [Node.column, Column.step]
      rw [← hfollow, hfill]

/-! ## The search -/

/-- At a place the search finds the preferred match, and leaves the column there. -/
lemma advance_column (node : Node) (p : Place) :
    (node.column goal p.next?).advance p.spot = (node.run goal p, node.column goal (some p)) := by
  obtain ⟨hvalue, hfill⟩ := step_column node goal p
  have hfound := hvalue (goal p)
  rw [Cont.at_self] at hfound
  exact Prod.ext hfound hfill

/-- The places of a text from one on, where `before` stands before it. -/
def Place.onward (before : List Char) : List Char → List Place
  | [] => [⟨before, []⟩]
  | c :: rest => ⟨before, c :: rest⟩ :: onward (c :: before) rest

/-- The places from one on are those behind some of its characters. -/
lemma Place.mem_onward {before s : List Char} {p : Place} :
    p ∈ onward before s ↔ ∃ w t, s = w ++ t ∧ p = ⟨w.reverse ++ before, t⟩ := by
  induction s generalizing before with
  | nil =>
    simp only [onward, List.mem_singleton, List.nil_eq, List.append_eq_nil_iff]
    constructor
    · rintro rfl
      exact ⟨[], [], ⟨rfl, rfl⟩, rfl⟩
    · rintro ⟨w, t, ⟨rfl, rfl⟩, rfl⟩
      rfl
  | cons c s ih =>
    simp only [onward, List.mem_cons, ih]
    constructor
    · rintro (rfl | ⟨w, t, rfl, rfl⟩)
      · exact ⟨[], c :: s, rfl, rfl⟩
      · exact ⟨c :: w, t, rfl, by simp⟩
    · rintro ⟨w, t, hs, rfl⟩
      cases w with
      | nil =>
        obtain rfl : c :: s = t := hs
        exact .inl rfl
      | cons d w =>
        obtain ⟨rfl, rfl⟩ := List.cons.inj hs
        exact .inr ⟨w, t, rfl, by simp⟩

/-- From a place on back to the start, the search finds the preferred match at each place. -/
lemma scanFrom_eq (node : Node) (before rest : List Char) (later : List (Option Found)) :
    scanFrom (node.column goal (Place.next? ⟨before, rest⟩)) rest.head?
        (((Place.onward before rest).tail.map (node.run goal)) ++ later) before.length before =
      (Place.onward [] (before.reverse ++ rest)).map (node.run goal) ++ later := by
  have hhead : ∀ before rest, Place.onward before rest =
      ⟨before, rest⟩ :: (Place.onward before rest).tail := by
    intro before rest
    cases rest <;> rfl
  induction before generalizing rest with
  | nil =>
    have hadvance := congrArg Prod.fst (advance_column node ⟨[], rest⟩)
    rw [List.reverse_nil, List.nil_append, hhead [] rest]
    simp only [Place.spot, List.length_nil, List.head?_nil] at hadvance
    simp only [scanFrom, hadvance, List.length_nil, List.map_cons, List.cons_append, List.tail_cons]
  | cons c before ih =>
    have hadvance := advance_column node ⟨c :: before, rest⟩
    simp only [Place.spot, List.head?_cons] at hadvance
    have hrest := ih (c :: rest)
    simp only [Place.onward, List.tail_cons] at hrest
    rw [hhead (c :: before) rest, List.map_cons, List.cons_append] at hrest
    rw [scanFrom, hadvance, List.reverse_cons, List.append_assoc]
    exact hrest

/-- **The search finds what is preferred.** The preferred match at every place of a text, first to
last. -/
lemma scan_eq (node : Node) (s : List Char) :
    scan node s = (Place.onward [] s).map (node.run goal) := by
  have h := scanFrom_eq node s.reverse [] []
  rw [Place.next?, column_none, List.append_nil, List.append_nil, List.append_nil,
    List.reverse_reverse, List.length_reverse] at h
  exact h

end HttpAudit.Pattern
