import HttpAudit.Proofs.Pattern.Counted

set_option relaxedAutoImplicit false
set_option autoImplicit false

/-!
# Clipping texts

The strict rules cut the query and the parameters off a URL by a replacement: each run of characters
other than a question mark and a semicolon is kept, and what follows it is dropped as far as the dot
of the pattern reaches. It reaches to the end of the line only, so that another run is kept behind
each line feed.

## Main definitions

* `HttpAudit.Strict.isCut` — the characters at which a text is cut.
* `HttpAudit.Strict.clip` — a text that is cut there.
* `HttpAudit.Strict.clipPattern` — the pattern that does it.

## Main results

* `HttpAudit.Strict.replaceAll_clipPattern` — replacing the matches of the pattern clips a text.
* `HttpAudit.Strict.clip_append` — what is left of a text in front of which another one stands.
-/

namespace HttpAudit.Strict

open Pattern

/-! ## Clipped texts -/

/-- Whether a text is cut at the character. -/
def isCut (c : Char) : Bool := c == '?' || c == ';'

/-- The text up to the first place where it is cut. -/
def uncut (s : List Char) : List Char := s.takeWhile fun c => !isCut c

/-- The text from the first place on where it is cut. -/
def fromCut (s : List Char) : List Char := s.dropWhile fun c => !isCut c

/-- The text from its first line feed on. -/
def fromLineFeed (s : List Char) : List Char := s.dropWhile fun c => c != '\n'

/-- The text from its first line feed on is no longer than the text. -/
lemma length_fromLineFeed_le (s : List Char) : (fromLineFeed s).length ≤ s.length :=
  (List.dropWhile_sublist _).length_le

/-- The text from its first line feed on starts with it. -/
lemma head_fromLineFeed {s rest : List Char} {c : Char} (h : fromLineFeed s = c :: rest) :
    c = '\n' := by
  have hhead := List.head?_dropWhile_not (fun c => c != '\n') s
  unfold fromLineFeed at h
  simpa [h] using hhead

/-- The text from the first cut on is no longer than the text. -/
lemma length_fromCut_le (s : List Char) : (fromCut s).length ≤ s.length :=
  (List.dropWhile_sublist _).length_le

/-- The text from the first cut on starts with it. -/
lemma head_fromCut {s : List Char} : ∀ c ∈ (fromCut s).head?, isCut c = true := by
  intro c hc
  have hhead := List.head?_dropWhile_not (fun c => !isCut c) s
  unfold fromCut at hc
  simpa [Option.mem_def.mp hc] using hhead

/-- The text in which every run of characters without a cut is kept and the rest of the line behind
it is dropped. Cuts in front of the first run are kept, too. -/
def clip : List Char → List Char
  | [] => []
  | c :: s => if isCut c then c :: clip s else c :: uncut s ++ clip (fromLineFeed (fromCut s))
termination_by s => s.length
decreasing_by
  · exact Nat.lt_succ_self _
  · exact Nat.lt_succ_of_le (Nat.le_trans (length_fromLineFeed_le _) (length_fromCut_le s))

/-- A clipped text is empty if the text is. -/
lemma clip_eq_nil_iff {s : List Char} : clip s = [] ↔ s = [] := by
  cases s with
  | nil => simp [clip]
  | cons c s =>
    rw [clip]
    split_ifs <;> simp

section Append

variable {s t : List Char} (ht : ∀ c ∈ t.head?, isCut c = true)

include ht

/-- Up to the first cut there is nothing of a text that starts with one. -/
lemma uncut_append : uncut (s ++ t) = uncut s := by
  induction s with
  | nil =>
    cases t with
    | nil => rfl
    | cons d t => simp [uncut, ht d rfl]
  | cons c s ih =>
    unfold uncut at ih ⊢
    by_cases hc : isCut c = true <;> simp [hc, ih]

/-- From the first cut on there is all of a text that starts with one. -/
lemma fromCut_append : fromCut (s ++ t) = fromCut s ++ t := by
  induction s with
  | nil =>
    cases t with
    | nil => rfl
    | cons d t => simp [fromCut, ht d rfl]
  | cons c s ih =>
    unfold fromCut at ih ⊢
    by_cases hc : isCut c = true <;> simp [hc, ih]

end Append

/-- **What stands behind a cut.** Where a text with something to keep stands in front of a text that
starts with a cut, of the latter no more is left than what is behind its first line feed.

**Proof sketch.** Induction on the length of the text in front. Its last run ends where the other
text starts, or a cut of its own ends it; in either case the rest of the line is dropped, and if
there is a line feed left in it the text in front goes on there, with the line feed to keep. -/
lemma clip_append {s t : List Char} (hs : ∃ c ∈ s, isCut c = false)
    (ht : ∀ c ∈ t.head?, isCut c = true) :
    clip (s ++ t) = clip s ++ clip (fromLineFeed t) := by
  induction hn : s.length using Nat.strongRecOn generalizing s with
  | ind n ih =>
    cases s with
    | nil => simp at hs
    | cons c s =>
      by_cases hc : isCut c = true
      · obtain ⟨d, hd, hdcut⟩ := hs
        have hd : d ∈ s := by
          rcases List.mem_cons.mp hd with rfl | hd
          · rw [hc] at hdcut
            cases hdcut
          · exact hd
        rw [List.cons_append, clip, if_pos hc, clip, if_pos hc, List.cons_append,
          ih s.length (by simp [← hn]) ⟨d, hd, hdcut⟩ rfl]
      · rw [List.cons_append, clip, if_neg hc, clip, if_neg hc]
        rw [uncut_append ht, fromCut_append ht]
        have hline : fromLineFeed (fromCut s ++ t) =
            if (fromLineFeed (fromCut s)).isEmpty then fromLineFeed t
            else fromLineFeed (fromCut s) ++ t := List.dropWhile_append
        rw [hline, List.append_assoc]
        cases hrest : fromLineFeed (fromCut s) with
        | nil => simp [clip]
        | cons d rest =>
          have hd : d = '\n' := head_fromLineFeed hrest
          have hlength : (d :: rest).length < n := by
            rw [← hn, ← hrest, List.length_cons]
            exact Nat.lt_succ_of_le
              (Nat.le_trans (length_fromLineFeed_le _) (length_fromCut_le s))
          have hbehind := ih _ hlength ⟨d, List.mem_cons_self, by rw [hd]; rfl⟩ rfl
          rw [← hbehind]
          rfl

/-! ## The replacement -/

/-- The class of the characters at which a text is not cut. -/
def uncutClass : CharClass := .compl (.union (.single '?') (.single ';'))

/-- The class of the dot. -/
def dotClass : CharClass := .compl (.single '\n')

/-- A run of characters without a cut, as a group, and the rest of the line. -/
def clipNode : Node :=
  .cat (.group 1 (.plus true (.chars uncutClass))) (.alt (.plus true (.chars dotClass)) .empty)

/-- The pattern that takes a run of characters without a cut and the rest of the line. -/
def clipPattern : Pattern := ⟨"([^\\?;]+).*".toList, clipNode, 1, []⟩

/-- The class of the characters at which a text is not cut. -/
lemma contains_uncutClass (c : Char) : uncutClass.contains c.toNat = !isCut c := by
  simp only [uncutClass, CharClass.contains, contains_single, isCut]

/-- The dot stands for all characters other than a line feed. -/
lemma contains_dotClass (c : Char) : dotClass.contains c.toNat = (c != '\n') := by
  simp only [dotClass, CharClass.contains, contains_single, bne]

/-- The pattern takes a run of characters without a cut, of which there must be one, and the rest of
the line. -/
lemma run_clipNode (p : Place) :
    clipNode.run goal p =
      if p.rest.head?.any fun c => !isCut c then
        some ⟨((p.past uncutClass).past dotClass).offset,
          [⟨1, true, p.offset⟩, ⟨1, false, (p.past uncutClass).offset⟩]⟩
      else none := by
  have hstar (q : Place) : (Node.alt (.plus true (.chars dotClass)) .empty).run goal q =
      some ⟨(q.past dotClass).offset, []⟩ := run_star_chars rfl
  obtain ⟨k, hk⟩ : ∃ k : Cont, k = fun q =>
      ((Node.alt (.plus true (.chars dotClass)) .empty).run goal q).map
        (Found.after [⟨1, false, q.offset⟩]) := ⟨_, rfl⟩
  have hvalue (q : Place) : k q = some ⟨(q.past dotClass).offset, [⟨1, false, q.offset⟩]⟩ := by
    simp only [hk, hstar]
    rfl
  have hrun : (Node.plus true (.chars uncutClass)).run k p =
      if p.rest.head?.any fun c => !isCut c then k (p.past uncutClass) else none := by
    simp only [← contains_uncutClass]
    exact run_plus_chars (by rw [hvalue]; rfl)
  rw [clipNode, Node.run, Node.run, ← hk, hrun]
  split_ifs
  · rw [hvalue]
    rfl
  · rfl

/-- The place behind a run and the rest of the line. -/
lemma exists_skip_past (p : Place) :
    ∃ n, (p.past uncutClass).past dotClass = p.skip ((uncut p.rest).length + n) ∧
      (uncut p.rest).length + n ≤ p.rest.length := by
  have hrun : p.past uncutClass = p.skip (uncut p.rest).length := by
    rw [past_eq_skip]
    simp only [Place.ahead, contains_uncutClass, uncut]
  refine ⟨_, by rw [past_eq_skip, hrun, Place.skip_skip], ?_⟩
  have hline := ahead_le (p.skip (uncut p.rest).length) dotClass
  have hle : (uncut p.rest).length ≤ p.rest.length := (List.takeWhile_sublist _).length_le
  have hdrop : (p.skip (uncut p.rest).length).rest.length =
      p.rest.length - (uncut p.rest).length := List.length_drop
  omega

/-- What follows behind a run and the rest of the line. -/
lemma rest_past (p : Place) :
    ((p.past uncutClass).past dotClass).rest = fromLineFeed (fromCut p.rest) := by
  simp only [Place.past, contains_uncutClass, contains_dotClass, fromLineFeed, fromCut]

/-- A run ends as many characters further on as it has. -/
lemma offset_past (p : Place) :
    (p.past uncutClass).offset = p.offset + (uncut p.rest).length := by
  simp only [Place.past, Place.offset, contains_uncutClass, uncut, List.length_append,
    List.length_reverse, Nat.add_comm]

/-- What a match is replaced by is the run. -/
lemma expandAt_clipPattern (start stop : Nat) (s : List Char) :
    clipPattern.expandAt [.index 1]
        ⟨start, stop, [⟨1, true, start⟩, ⟨1, false, start + (uncut s).length⟩]⟩ s = uncut s := by
  have htake : s.take (uncut s).length = uncut s :=
    (List.prefix_iff_eq_take.mp (List.takeWhile_prefix _)).symm
  simp [expandAt, Template.expand, Match.groupText, Match.span?, htake]

/-- **Replacing clips.** Replacing the matches of the pattern by their first group clips a text.

**Proof sketch.** Induction on the length of the text from a place on. At a cut the pattern finds
nothing. Elsewhere it takes a run and the rest of the line (`run_clipNode`), of which the run is
kept (`expandAt_clipPattern`), and the text goes on at the line feed. -/
lemma replacedFrom_clipPattern (matched : Bool) (p : Place) :
    clipPattern.replacedFrom [.index 1] matched p = clip p.rest := by
  induction hn : p.rest.length using Nat.strongRecOn generalizing p matched with
  | ind n ih =>
    obtain ⟨before, rest⟩ := p
    have hfound : clipPattern.node.run goal ⟨before, rest⟩ = _ := run_clipNode ⟨before, rest⟩
    cases rest with
    | nil =>
      rw [replacedFrom, hfound]
      simp [replacedAt, clip]
    | cons c s =>
      rw [clip]
      by_cases hc : isCut c = true
      · rw [replacedFrom_of_none (by rw [hfound]; simp [hc]), if_pos hc,
          ih s.length (by simp [← hn]) false ⟨c :: before, s⟩ rfl]
      · have hrun : uncut (c :: s) = c :: uncut s := by simp [uncut, hc]
        have hcut : fromCut (c :: s) = fromCut s := by simp [fromCut, hc]
        obtain ⟨k, hk, hle⟩ := exists_skip_past ⟨before, c :: s⟩
        have hrest := rest_past ⟨before, c :: s⟩
        have hlength : ((⟨before, c :: s⟩ : Place).past uncutClass |>.past dotClass).rest.length <
            n := by
          rw [hrest, hcut, ← hn]
          exact Nat.lt_succ_of_le
            (Nat.le_trans (length_fromLineFeed_le _) (length_fromCut_le s))
        rw [if_pos (by simp [hc]), offset_past] at hfound
        rw [replacedFrom_of_some hfound (by rw [hk, Place.offset_skip hle]) (by simp [hrun]) hle,
          expandAt_clipPattern, ← hk, ih _ hlength true _ rfl, hrest, if_neg hc, hrun, hcut]

/-- Replacing all matches of the pattern by their first group clips the text. -/
lemma replaceAll_clipPattern (s : List Char) :
    clipPattern.replaceAll [.index 1] s = clip s :=
  (replaceAll_eq clipPattern [.index 1] s).trans (replacedFrom_clipPattern false ⟨[], s⟩)

end HttpAudit.Strict
