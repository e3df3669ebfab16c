import HttpAudit.Proofs.Pattern.Repetition
import HttpAudit.Proofs.Pattern.Replace

set_option relaxedAutoImplicit false
set_option autoImplicit false

/-!
# Long runs of a class

A class of characters that is repeated a number of times at least, and as often as possible, finds
the runs of its characters that are long enough. Where its matches are replaced by a fixed text,
each of these runs is, from its first character to its last, and nothing else changes.

## Main definitions

* `HttpAudit.Pattern.Node.atLeast` — the pattern for such a repetition.
* `HttpAudit.Pattern.maskRuns` — a text in which the long runs are replaced.

## Main results

* `HttpAudit.Pattern.run_atLeast` — what the repetition prefers.
* `HttpAudit.Pattern.replaceAll_atLeast` — replacing its matches replaces the long runs.
-/

namespace HttpAudit.Pattern

/-! ## What is found -/

/-- A class more than `n` times, as often as possible. -/
def Node.atLeast (n : Nat) (cls : CharClass) : Node :=
  .cat (.row (.chars cls) n) (.plus true (.chars cls))

/-- A row of copies is a copy in front of a shorter row. -/
lemma run_row_succ (body : Node) (n : Nat) (k : Cont) :
    (Node.row body (n + 1)).run k = body.run ((Node.row body n).run k) := by
  cases n with
  | zero => rfl
  | succ n => rfl

/-- The number of characters of the class that come next. -/
def Place.ahead (p : Place) (cls : CharClass) : Nat :=
  (p.rest.takeWhile fun c => cls.contains c.toNat).length

/-- The place behind all characters of the class that come next is so many characters further
on. -/
lemma past_eq_skip (p : Place) (cls : CharClass) : p.past cls = p.skip (p.ahead cls) := by
  have hsplit : (p.rest.takeWhile fun c => cls.contains c.toNat) ++
      (p.rest.dropWhile fun c => cls.contains c.toNat) = p.rest := List.takeWhile_append_dropWhile
  unfold Place.past Place.skip Place.ahead
  conv_rhs => rw [← hsplit]
  rw [List.take_left' (by simp), List.drop_left' (by simp)]

/-- No more characters come next than there are. -/
lemma ahead_le (p : Place) (cls : CharClass) : p.ahead cls ≤ p.rest.length :=
  (List.takeWhile_sublist _).length_le

/-- The repetition takes all characters of the class that come next, if they are enough. -/
lemma run_atLeast (n : Nat) (cls : CharClass) (p : Place) :
    (Node.atLeast n cls).run goal p =
      if n < p.ahead cls then some ⟨(p.past cls).offset, []⟩ else none := by
  show (Node.row (.chars cls) n).run ((Node.plus true (.chars cls)).run goal) p = _
  induction n generalizing p with
  | zero =>
    show (Node.plus true (.chars cls)).run goal p = _
    rw [run_plus_chars rfl]
    obtain ⟨before, rest⟩ := p
    cases rest with
    | nil => simp [Place.ahead]
    | cons c rest => by_cases hc : cls.contains c.toNat = true <;> simp [Place.ahead, hc, goal]
  | succ n ih =>
    rw [run_row_succ]
    obtain ⟨before, rest⟩ := p
    cases rest with
    | nil => simp [Node.run, Place.ahead]
    | cons c rest =>
      rw [run_chars_cons]
      by_cases hc : cls.contains c.toNat = true
      · have hahead : (⟨before, c :: rest⟩ : Place).ahead cls =
            (⟨c :: before, rest⟩ : Place).ahead cls + 1 := by simp [Place.ahead, hc]
        rw [if_pos hc, ih, Place.past_cons hc, hahead]
        simp only [Nat.add_lt_add_iff_right]
      · simp [Place.ahead, hc]

/-! ## What is replaced -/

/-- The text in which each run of more than `n` characters that pass the test is replaced by
`mask`. -/
def maskRuns (test : Char → Bool) (n : Nat) (mask : List Char) : List Char → List Char
  | [] => []
  | c :: s =>
    if test c then
      (if n < (c :: s.takeWhile test).length then mask else c :: s.takeWhile test) ++
        maskRuns test n mask (s.dropWhile test)
    else c :: maskRuns test n mask s
termination_by s => s.length
decreasing_by
  · exact Nat.lt_succ_of_le (List.dropWhile_sublist _).length_le
  · exact Nat.lt_succ_self _

/-- A run that is long enough is replaced. -/
lemma maskRuns_of_lt {test : Char → Bool} {n : Nat} {mask s : List Char}
    (h : n < (s.takeWhile test).length) :
    maskRuns test n mask s = mask ++ maskRuns test n mask (s.dropWhile test) := by
  cases s with
  | nil => simp at h
  | cons c s =>
    by_cases hc : test c = true
    · rw [List.takeWhile_cons_of_pos hc] at h
      rw [maskRuns, if_pos hc, if_pos h, List.dropWhile_cons_of_pos hc]
    · simp [hc] at h

/-- A run that is not long enough stays. -/
lemma maskRuns_of_le {test : Char → Bool} {n : Nat} {mask s : List Char}
    (h : (s.takeWhile test).length ≤ n) :
    maskRuns test n mask s = s.takeWhile test ++ maskRuns test n mask (s.dropWhile test) := by
  cases s with
  | nil => simp [maskRuns]
  | cons c s =>
    by_cases hc : test c = true
    · rw [List.takeWhile_cons_of_pos hc] at h ⊢
      rw [maskRuns, if_pos hc, if_neg (Nat.not_lt.mpr h), List.dropWhile_cons_of_pos hc]
    · rw [List.takeWhile_cons_of_neg hc, List.dropWhile_cons_of_neg hc, List.nil_append]

/-- The first character of a text stays if it does not start a long run. -/
lemma maskRuns_cons {test : Char → Bool} {n : Nat} {mask s : List Char} {c : Char}
    (h : ((c :: s).takeWhile test).length ≤ n) :
    maskRuns test n mask (c :: s) = c :: maskRuns test n mask s := by
  by_cases hc : test c = true
  · have hrest := h
    rw [List.takeWhile_cons_of_pos hc, List.length_cons] at hrest
    rw [maskRuns_of_le h, maskRuns_of_le (Nat.le_of_succ_le hrest), List.takeWhile_cons_of_pos hc,
      List.dropWhile_cons_of_pos hc, List.cons_append]
  · rw [maskRuns, if_neg hc]

/-- Nothing is left only of the empty text. -/
lemma maskRuns_eq_nil_iff {test : Char → Bool} {n : Nat} {mask s : List Char} (h : mask ≠ []) :
    maskRuns test n mask s = [] ↔ s = [] := by
  cases s with
  | nil => simp [maskRuns]
  | cons c s =>
    rw [maskRuns]
    split_ifs <;> simp [h]

/-- A template without references stands for itself. -/
lemma expandAt_literals (p : Pattern) (mask : List Char) (m : Match) (s : List Char) :
    p.expandAt (mask.map .literal) m s = mask := by
  unfold expandAt
  induction mask with
  | nil => rfl
  | cons c mask ih => rw [List.map_cons, Template.expand, ih]

/-- **Long runs are replaced.** Replacing the matches of the repetition by a fixed text replaces the
runs that are long enough.

**Proof sketch.** Induction on the length of the text from a place on. If enough characters of the
class come next, the match takes all of them (`run_atLeast`), and the text goes on behind the run.
Otherwise there is no match here, and none within the run, since even fewer come next there. -/
theorem replaceAll_atLeast {p : Pattern} {n : Nat} {cls : CharClass}
    (hp : p.node = .atLeast n cls) (mask s : List Char) :
    p.replaceAll (mask.map .literal) s = maskRuns (fun c => cls.contains c.toNat) n mask s := by
  have hfrom : ∀ (matched : Bool) (place : Place),
      p.replacedFrom (mask.map .literal) matched place =
        maskRuns (fun c => cls.contains c.toNat) n mask place.rest := by
    intro matched place
    induction hlength : place.rest.length using Nat.strongRecOn generalizing place matched with
    | ind k ih =>
      have hfound := run_atLeast n cls place
      rw [← hp] at hfound
      by_cases hlong : n < place.ahead cls
      · rw [if_pos hlong] at hfound
        have hle : place.ahead cls ≤ place.rest.length := ahead_le place cls
        have hstop : (place.past cls).offset = place.offset + place.ahead cls := by
          rw [past_eq_skip, Place.offset_skip hle]
        have hshorter : (place.past cls).rest.length < k := by
          rw [past_eq_skip, ← hlength]
          show (place.rest.drop _).length < _
          rw [List.length_drop]
          omega
        rw [replacedFrom_of_some hfound hstop (by omega) hle, expandAt_literals, ← past_eq_skip,
          ih _ hshorter _ _ rfl, maskRuns_of_lt hlong]
        rfl
      · rw [if_neg hlong] at hfound
        obtain ⟨before, rest⟩ := place
        cases rest with
        | nil =>
          rw [replacedFrom, hfound]
          simp [replacedAt, maskRuns]
        | cons c rest =>
          rw [replacedFrom_of_none hfound, maskRuns_cons (Nat.not_lt.mp hlong)]
          exact congrArg (c :: ·) (ih rest.length (by simp [← hlength]) _ _ rfl)
  rw [replaceAll_eq, hfrom]

end HttpAudit.Pattern
