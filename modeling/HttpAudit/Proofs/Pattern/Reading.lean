import HttpAudit.Pattern.Parser
import HttpAudit.Proofs.Pattern.Bracket

set_option relaxedAutoImplicit false
set_option autoImplicit false

/-!
# Patterns within patterns

A pattern is read part by part. Its parts are the same ones if something is put behind its text, if
it stands in a group, or if other parts stand in front of it: a part only depends on the flags in
force, on the names of groups, and on the text up to its end. So a pattern can be read within
another one.

## Main definitions

* `HttpAudit.Pattern.ReadState.openFlags?` — the flags of a group.
* `HttpAudit.Pattern.ReadState.Reads` — a run over some parts of a pattern.
* `HttpAudit.Pattern.Level.Behind` — a level of nesting behind some parts.
* `HttpAudit.Pattern.ReadState.Within` — a state within some groups, behind some parts.

## Main results

* `HttpAudit.Pattern.steady_step`, `HttpAudit.Pattern.ReadState.Reads.trails` — a part and a run
  with a trailer behind the text.
* `HttpAudit.Pattern.ReadState.Within.step`, `HttpAudit.Pattern.ReadState.Reads.within` — a part and
  a run within groups and behind parts.
* `HttpAudit.Pattern.ReadState.exists_reads` — a pattern is read in a run to its end.
-/

namespace HttpAudit.Pattern

/-! ## Parts with something behind them -/

/-- The name of a group is read up to its bracket. -/
lemma steady_readName : Steady readName := by
  refine steady_of_append rfl fun t h => ?_
  simp only [readName, Option.bind_eq_bind, Option.bind_eq_some_iff] at h ⊢
  obtain ⟨⟨name, rest⟩, hsplit, h⟩ := h
  refine ⟨_, splitFirst?_append t hsplit, ?_⟩
  cases name with
  | nil => cases h
  | cons first more =>
    obtain ⟨_, hchars, h⟩ := Option.bind_eq_some_iff.mp h
    cases h
    exact Option.bind_eq_some_iff.mpr ⟨_, hchars, rfl⟩

/-- A trailer does not make a repetition lazy. -/
lemma steady_repeatWith? (state : ReadState) (least : Nat) (most : Option Nat) :
    Steady (state.repeatWith? least most) := by
  intro s rest x g h hg
  simp only [ReadState.repeatWith?] at h ⊢
  split at h
  · obtain ⟨g', hg', hcons⟩ := hg.cons
    obtain ⟨next, hnext, heq⟩ := Option.map_eq_some_iff.mp h
    cases heq
    exact ⟨g', hg', fun b => by simp only [hcons, hnext, Option.map_some]⟩
  · next hlazy =>
    obtain ⟨next, hnext, heq⟩ := Option.map_eq_some_iff.mp h
    cases heq
    refine ⟨g, hg, fun b => ?_⟩
    split
    · next hb => exact (hg.ne_cons hlazy (by decide) b _ hb).elim
    · rw [hnext, Option.map_some]

/-- A named group is opened in the same way with a trailer behind the text. -/
lemma steady_openNamed? (state : ReadState) : Steady state.openNamed? := by
  intro s rest x g h hg
  simp only [ReadState.openNamed?, Option.bind_eq_bind, Option.bind_eq_some_iff] at h ⊢
  obtain ⟨⟨name, s'⟩, hname, _, hfresh, h⟩ := h
  cases h
  obtain ⟨g', hg', hread⟩ := steady_readName hname hg
  exact ⟨g', hg', fun b => ⟨_, hread b, _, hfresh, rfl⟩⟩

/-- Opens a group with flags, or changes the flags, from behind the question mark. -/
def ReadState.openFlags? (state : ReadState) (s : List Char) : Option (ReadState × List Char) := do
  let (flags, seen, ending, rest) ← state.flags.read [] s
  match ending with
  | .colon => some (state.openGroup none flags, rest)
  | .parenthesis =>
    guard !seen.isEmpty
    some ({ state with flags }.push ⟨.empty, 0, false⟩, rest)

/-- Behind a question mark there are flags where nothing else starts. -/
lemma openParenthesis?_eq_openFlags? {state : ReadState} {s t : List Char}
    (hs : state.flags.skip s = '?' :: t) (hequal : ∀ rest, t ≠ '=' :: rest)
    (hbang : ∀ rest, t ≠ '!' :: rest) (hangle : ∀ rest, t ≠ '<' :: rest)
    (hname : ∀ rest, t ≠ 'P' :: '<' :: rest) : state.openParenthesis? s = state.openFlags? t := by
  have hbehind (rest : List Char) : t ≠ '<' :: '=' :: rest := hangle _
  have hnotBehind (rest : List Char) : t ≠ '<' :: '!' :: rest := hangle _
  simp only [ReadState.openParenthesis?, hs]
  rfl

/-- Flags are read in the same way with a trailer behind the text. -/
lemma steady_openFlags? (state : ReadState) : Steady state.openFlags? := by
  intro s rest x g h hg
  simp only [ReadState.openFlags?, Option.bind_eq_bind, Option.bind_eq_some_iff] at h ⊢
  obtain ⟨⟨flags, seen, ending, s'⟩, hflags, h⟩ := h
  obtain ⟨u, hu, hread⟩ := hg.read_flags hflags
  cases ending with
  | colon =>
    cases h
    exact ⟨u, hu, fun b => ⟨_, hread b, rfl⟩⟩
  | parenthesis =>
    obtain ⟨_, hseen, h⟩ := Option.bind_eq_some_iff.mp h
    cases h
    exact ⟨u, hu, fun b => ⟨_, hread b, Option.bind_eq_some_iff.mpr ⟨_, hseen, rfl⟩⟩⟩

/-- So is any group. -/
lemma steady_openParenthesis? (state : ReadState) : Steady state.openParenthesis? := by
  intro s rest x g h hg
  have ht := hg.skip state.flags
  unfold ReadState.openParenthesis? at h
  generalize hs : state.flags.skip s = t at h ht
  split at h
  · cases h
  · cases h
  · cases h
  · cases h
  · obtain ⟨u₁, hu₁, h₁⟩ := ht.cons
    obtain ⟨u₂, hu₂, h₂⟩ := hu₁.cons
    obtain ⟨u₃, hu₃, h₃⟩ := hu₂.cons
    obtain ⟨g', hg', hread⟩ := steady_openNamed? state h hu₃
    exact ⟨g', hg', fun b => by simp only [ReadState.openParenthesis?, h₁, h₂, h₃, hread]⟩
  · next t hequal hbang =>
    obtain ⟨u₁, hu₁, h₁⟩ := ht.cons
    obtain ⟨u₂, hu₂, h₂⟩ := hu₁.cons
    obtain ⟨g', hg', hread⟩ := steady_openNamed? state h hu₂
    refine ⟨g', hg', fun b => ?_⟩
    have hequal' := hu₂.ne_cons hequal (by decide) b
    have hbang' := hu₂.ne_cons hbang (by decide) b
    rw [← hread b]
    simp only [ReadState.openParenthesis?, h₁, h₂]
  · next t hequal hbang _ _ hname hangle =>
    obtain ⟨u, hu, hcons⟩ := ht.cons
    obtain ⟨g', hg', hread⟩ := steady_openFlags? state h hu
    refine ⟨g', hg', fun b => ?_⟩
    rw [openParenthesis?_eq_openFlags? (hcons b) (hu.ne_cons hequal (by decide) b)
      (hu.ne_cons hbang (by decide) b) (hu.ne_cons hangle (by decide) b)
      (hu.ne_cons_cons hname (by decide) (by decide) b), hread b]
  · next hquestion =>
    cases h
    refine ⟨_, ht, fun b => ?_⟩
    have hne := ht.ne_cons hquestion (by decide) b
    unfold ReadState.openParenthesis?
    generalize state.flags.skip (g b) = v at hne
    split <;> simp_all

/-- A part of a pattern is read in the same way with a trailer behind the pattern. -/
lemma steady_step (state : ReadState) (c : Char) : Steady (state.step c) := by
  intro s rest x g h hg
  unfold ReadState.step at h
  dsimp only at h
  split at h
  · exact steady_openParenthesis? state h hg
  · obtain ⟨next, hnext, heq⟩ := Option.map_eq_some_iff.mp h
    cases heq
    exact ⟨g, hg, fun b => by simp only [ReadState.step, hnext, Option.map_some]⟩
  · cases h
    exact ⟨g, hg, fun b => rfl⟩
  · simp only [Option.bind_eq_bind, Option.bind_eq_some_iff] at h
    obtain ⟨⟨piece, s'⟩, hpiece, h⟩ := h
    cases h
    obtain ⟨g', hg', hread⟩ := steady_readBracket state.flags hpiece hg
    exact ⟨g', hg', fun b => by
      simp only [ReadState.step, hread b, Option.bind_eq_bind, Option.bind_some]⟩
  · exact steady_repeatWith? state _ _ h hg
  · exact steady_repeatWith? state _ _ h hg
  · exact steady_repeatWith? state _ _ h hg
  · simp only [Option.bind_eq_bind, Option.bind_eq_some_iff] at h
    obtain ⟨⟨text, s'⟩, htext, ⟨least, most⟩, hbounds, h⟩ := h
    obtain ⟨g₁, hg₁, hread₁⟩ := steady_braced state.flags.extended htext hg
    obtain ⟨g', hg', hread₂⟩ := steady_repeatWith? state _ _ h (hg₁.skip state.flags)
    exact ⟨g', hg', fun b => by
      simp only [ReadState.step, hread₁ b, hbounds, hread₂ b, Option.bind_eq_bind,
        Option.bind_some]⟩
  · simp only [Option.bind_eq_bind, Option.bind_eq_some_iff] at h
    obtain ⟨cls, hcls, h⟩ := h
    cases h
    exact ⟨g, hg, fun b => by
      simp only [ReadState.step, hcls, Option.bind_eq_bind, Option.bind_some]⟩
  · cases h
    exact ⟨g, hg, fun b => rfl⟩
  · cases h
    exact ⟨g, hg, fun b => rfl⟩
  · simp only [Option.bind_eq_bind, Option.bind_eq_some_iff] at h
    obtain ⟨⟨atom, s'⟩, hatom, tree, htree, h⟩ := h
    cases h
    obtain ⟨g', hg', hread⟩ := steady_readEscape state.flags hatom hg
    exact ⟨g', hg', fun b => by
      simp only [ReadState.step, hread b, htree, Option.bind_eq_bind, Option.bind_some]⟩
  · simp only [Option.bind_eq_bind, Option.bind_eq_some_iff] at h
    obtain ⟨tree, htree, h⟩ := h
    cases h
    exact ⟨g, hg, fun b => by
      simp only [ReadState.step, htree, Option.bind_eq_bind, Option.bind_some]⟩

/-! ## Runs -/

namespace ReadState

/-- Where nothing is left and no group is open, the pattern ends. -/
lemma read?_of_skip_eq_nil {state : ReadState} {s : List Char} (n : Nat)
    (hskip : state.flags.skip s = []) (henclosing : state.enclosing = []) :
    state.read? n s = some state := by
  cases n <;> simp [read?, hskip, henclosing]

/-- Where a group is open, it does not. -/
lemma read?_of_open {state : ReadState} {s : List Char} (n : Nat)
    (hskip : state.flags.skip s = []) (henclosing : state.enclosing ≠ []) :
    state.read? n s = none := by
  cases n <;> simp [read?, hskip, henclosing]

/-- A part is read, and the rest after it. -/
lemma read?_of_step {state next : ReadState} {c : Char} {s rest s' : List Char} (n : Nat)
    (hskip : state.flags.skip s = c :: rest) (hstep : state.step c rest = some (next, s')) :
    state.read? (n + 1) s = next.read? n s' := by
  rw [read?, hskip]
  simp only [hstep]

/-- Reading `n` parts of the text `s` leads from the first state to the second one and leaves the
rest of the text. -/
inductive Reads : Nat → ReadState → List Char → ReadState → List Char → Prop where
  /-- Nothing is read. -/
  | done (state : ReadState) (s : List Char) : Reads 0 state s state s
  /-- A part is read, and others behind it. -/
  | part {n : Nat} {state next last : ReadState} {c : Char} {s rest s' s'' : List Char}
      (hskip : state.flags.skip s = c :: rest) (hstep : state.step c rest = some (next, s'))
      (h : Reads n next s' last s'') : Reads (n + 1) state s last s''

/-- What is read of a pattern goes on where its first parts end. -/
lemma Reads.read?_eq {n : Nat} {state last : ReadState} {s rest : List Char}
    (h : Reads n state s last rest) (m : Nat) : state.read? (n + m) s = last.read? m rest := by
  induction h with
  | done => rw [Nat.zero_add]
  | part hskip hstep _ ih =>
    rw [Nat.add_right_comm, read?_of_step _ hskip hstep]
    exact ih

/-- The same parts are read with a trailer behind the text. -/
lemma Reads.trails {n : Nat} {state last : ReadState} {s rest : List Char}
    {g : Bool → List Char} (h : Reads n state s last rest) (hg : Trails s g) :
    ∃ g', Trails rest g' ∧ ∀ b, Reads n state (g b) last (g' b) := by
  induction h generalizing g with
  | done state s => exact ⟨g, hg, fun b => .done _ _⟩
  | @part n state next last c s rest s' s'' hskip hstep _ ih =>
    have ht := hg.skip state.flags
    rw [hskip] at ht
    obtain ⟨u, hu, hcons⟩ := ht.cons
    obtain ⟨g₁, hg₁, hstep₁⟩ := steady_step state c hstep hu
    obtain ⟨g', hg', hreads⟩ := ih hg₁
    exact ⟨g', hg', fun b => .part (hcons b) (hstep₁ b) (hreads b)⟩

/-- Where nothing is left, nothing is read, and the pattern ends if no group is open. -/
lemma reads_of_skip_eq_nil {n : Nat} {state last : ReadState} {s : List Char}
    (h : state.read? n s = some last) (hskip : state.flags.skip s = []) :
    Reads 0 state s last s ∧ last.flags.skip s = [] ∧ last.enclosing = [] := by
  by_cases henclosing : state.enclosing = []
  · rw [read?_of_skip_eq_nil n hskip henclosing] at h
    cases h
    exact ⟨.done _ _, hskip, henclosing⟩
  · rw [read?_of_open n hskip henclosing] at h
    cases h

/-- A pattern is read in parts to its end. -/
lemma exists_reads {n : Nat} {state last : ReadState} {s : List Char}
    (h : state.read? n s = some last) :
    ∃ k rest, k ≤ n ∧ Reads k state s last rest ∧ last.flags.skip rest = [] ∧
      last.enclosing = [] := by
  induction n generalizing state s with
  | zero =>
    cases hskip : state.flags.skip s with
    | nil => exact ⟨0, s, Nat.zero_le _, reads_of_skip_eq_nil h hskip⟩
    | cons c rest => simp [read?, hskip] at h
  | succ n ih =>
    cases hskip : state.flags.skip s with
    | nil => exact ⟨0, s, Nat.zero_le _, reads_of_skip_eq_nil h hskip⟩
    | cons c rest =>
      cases hstep : state.step c rest with
      | none => simp [read?, hskip, hstep] at h
      | some found =>
        rw [read?_of_step n hskip hstep] at h
        obtain ⟨k, rest', hk, hreads, hend⟩ := ih h
        exact ⟨k + 1, rest', Nat.succ_le_succ hk, .part hskip hstep hreads, hend⟩

end ReadState

/-! ## Within groups and behind parts -/

/-- The second level is the first one with the parts `lead` in front of its first branch. -/
inductive Level.Behind (lead : List Piece) : Level → Level → Prop where
  /-- The first branch is not complete. -/
  | first (items : List Piece) : Behind lead ⟨[], items⟩ ⟨[], items ++ lead.reverse⟩
  /-- The first branch is complete. -/
  | later (first : List Piece) (branches items : List Piece) :
      Behind lead ⟨branches ++ [.sequence first], items⟩
        ⟨branches ++ [.sequence (lead ++ first)], items⟩

namespace Level.Behind

variable {lead : List Piece} {level level' : Level}

/-- Another part stands behind the others. -/
lemma push (h : level.Behind lead level') (piece : Piece) :
    (level.push piece).Behind lead (level'.push piece) := by
  cases h with
  | first items => exact .first (piece :: items)
  | later first branches items => exact .later first branches (piece :: items)

/-- Nothing in front of a level changes nothing. -/
lemma eq (h : level.Behind [] level') : level' = level := by
  cases h with
  | first items => rw [List.reverse_nil, List.append_nil]
  | later first branches items => rfl

/-- A complete branch stays behind the parts. -/
lemma branch (h : level.Behind lead level') : level.branch.Behind lead level'.branch := by
  cases h with
  | first items =>
    simp only [Level.branch, List.reverse_append, List.reverse_reverse]
    exact .later items.reverse [] []
  | later first branches items => exact .later first (.sequence items.reverse :: branches) []

/-- The last part is that of the level behind the others, and may be replaced. -/
lemma replace {piece : Piece} {items : List Piece} (h : level.Behind lead level')
    (hitems : level.items = piece :: items) :
    ∃ items', level'.items = piece :: items' ∧ ∀ piece',
      { level with items := piece' :: items }.Behind lead
        { level' with items := piece' :: items' } := by
  cases h with
  | first =>
    obtain rfl : _ = piece :: items := hitems
    exact ⟨_, rfl, fun piece' => .first (piece' :: items)⟩
  | later first branches =>
    obtain rfl : _ = piece :: items := hitems
    exact ⟨_, rfl, fun piece' => .later first branches (piece' :: items)⟩

end Level.Behind

namespace ReadState

/-- What is repeated is the last part, if it may be. -/
lemma repeatLast?_eq_some_iff {state next : ReadState} {least : Nat} {most : Option Nat}
    {lazy : Bool} :
    state.repeatLast? least most lazy = some next ↔
      ∃ piece items, state.level.items = piece :: items ∧ piece.repeatable = true ∧
        next = { state with
          level.items :=
            ⟨piece.tree.repeated least most (lazy == state.flags.swapGreed), piece.depth + 1,
              true⟩ :: items } := by
  unfold repeatLast?
  cases state.level.items with
  | nil => simp
  | cons piece items =>
    simp only [List.cons.injEq, Option.ite_none_right_eq_some, Option.some.injEq]
    constructor
    · rintro ⟨hrepeatable, rfl⟩
      exact ⟨piece, items, ⟨rfl, rfl⟩, hrepeatable, rfl⟩
    · rintro ⟨_, _, ⟨rfl, rfl⟩, hrepeatable, rfl⟩
      exact ⟨hrepeatable, rfl⟩

/-- The second state is the first one within the groups `around`, behind the parts `lead` of the
innermost one of these. -/
inductive Within (lead : List Piece) (around : List OpenGroup) : ReadState → ReadState → Prop where
  /-- No further group is open. -/
  | outside {flags : Flags} {groups : Nat} {names : List (List Char × Nat)} {level level' : Level}
      (h : level.Behind lead level') :
      Within lead around ⟨flags, groups, names, [], level⟩ ⟨flags, groups, names, around, level'⟩
  /-- Further groups are open. -/
  | inside {flags groupFlags : Flags} {groups : Nat} {names : List (List Char × Nat)}
      {index : Option Nat} {outer outer' level : Level} (inner : List OpenGroup)
      (h : outer.Behind lead outer') :
      Within lead around ⟨flags, groups, names, inner ++ [⟨index, groupFlags, outer⟩], level⟩
        ⟨flags, groups, names, inner ++ ⟨index, groupFlags, outer'⟩ :: around, level⟩

namespace Within

variable {lead : List Piece} {around : List OpenGroup} {state state' next : ReadState}

/-- The flags are the same. -/
lemma flags_eq (h : Within lead around state state') : state'.flags = state.flags := by
  cases h <;> rfl

/-- So are the names of groups. -/
lemma names_eq (h : Within lead around state state') : state'.names = state.names := by
  cases h <;> rfl

/-- The flags are changed in the same way. -/
lemma withFlags (h : Within lead around state state') (flags : Flags) :
    Within lead around { state with flags } { state' with flags } := by
  cases h with
  | outside h => exact .outside h
  | inside inner h => exact .inside inner h

/-- A level that has something in front changes as it does without. -/
lemma level {change : Level → Level}
    (hchange : ∀ {level level' : Level}, level.Behind lead level' →
      (change level).Behind lead (change level'))
    (h : Within lead around state state') :
    Within lead around { state with level := change state.level }
      { state' with level := change state'.level } := by
  cases h with
  | outside h => exact .outside (hchange h)
  | inside inner h => exact .inside inner h

/-- Another part is read in the same way. -/
lemma push (h : Within lead around state state') (piece : Piece) :
    Within lead around (state.push piece) (state'.push piece) :=
  h.level fun h => h.push piece

/-- A group is opened in the same way. -/
lemma openGroup (h : Within lead around state state') (index : Option Nat) (flags : Flags) :
    Within lead around (state.openGroup index flags) (state'.openGroup index flags) := by
  cases h with
  | outside h => exact .inside [] h
  | inside inner h => exact .inside (_ :: inner) h

/-- So is a capturing one. -/
lemma openCapture (h : Within lead around state state') :
    Within lead around state.openCapture state'.openCapture := by
  cases h with
  | outside h => exact .inside [] h
  | inside inner h => exact .inside (_ :: inner) h

/-- A group that is closed is one of those that were opened. -/
lemma closeGroup? (h : Within lead around state state') (hnext : state.closeGroup? = some next) :
    ∃ next', Within lead around next next' ∧ state'.closeGroup? = some next' := by
  cases h with
  | outside h => cases hnext
  | inside inner h =>
    cases inner with
    | nil =>
      cases hnext
      exact ⟨_, .outside (h.push _), rfl⟩
    | cons group inner =>
      cases hnext
      exact ⟨_, .inside inner h, rfl⟩

/-- A part that is repeated is one of those that were read. -/
lemma repeatLast? (h : Within lead around state state') {least : Nat} {most : Option Nat}
    {lazy : Bool} (hnext : state.repeatLast? least most lazy = some next) :
    ∃ next', Within lead around next next' ∧ state'.repeatLast? least most lazy = some next' := by
  obtain ⟨piece, items, hitems, hrepeatable, rfl⟩ := repeatLast?_eq_some_iff.mp hnext
  cases h with
  | outside h =>
    obtain ⟨items', hitems', hreplace⟩ := h.replace hitems
    exact ⟨_, .outside (hreplace _),
      repeatLast?_eq_some_iff.mpr ⟨piece, items', hitems', hrepeatable, rfl⟩⟩
  | inside inner h =>
    exact ⟨_, .inside inner h,
      repeatLast?_eq_some_iff.mpr ⟨piece, items, hitems, hrepeatable, rfl⟩⟩

/-- So it is with a lazy repetition. -/
lemma repeatWith? (h : Within lead around state state') {least : Nat} {most : Option Nat}
    {s rest : List Char} (hnext : state.repeatWith? least most s = some (next, rest)) :
    ∃ next', Within lead around next next' ∧
      state'.repeatWith? least most s = some (next', rest) := by
  unfold ReadState.repeatWith? at hnext ⊢
  split at hnext
  · obtain ⟨last, hlast, heq⟩ := Option.map_eq_some_iff.mp hnext
    cases heq
    obtain ⟨next', hwithin, hnext'⟩ := h.repeatLast? hlast
    exact ⟨next', hwithin, Option.map_eq_some_iff.mpr ⟨_, hnext', rfl⟩⟩
  · obtain ⟨last, hlast, heq⟩ := Option.map_eq_some_iff.mp hnext
    cases heq
    obtain ⟨next', hwithin, hnext'⟩ := h.repeatLast? hlast
    exact ⟨next', hwithin, Option.map_eq_some_iff.mpr ⟨_, hnext', rfl⟩⟩

/-- A named group is opened in the same way. -/
lemma openNamed? (h : Within lead around state state') {s rest : List Char}
    (hnext : state.openNamed? s = some (next, rest)) :
    ∃ next', Within lead around next next' ∧ state'.openNamed? s = some (next', rest) := by
  simp only [ReadState.openNamed?, Option.bind_eq_bind, Option.bind_eq_some_iff] at hnext ⊢
  obtain ⟨⟨name, s'⟩, hname, _, hfresh, hnext⟩ := hnext
  cases hnext
  rw [h.names_eq]
  cases h with
  | outside h => exact ⟨_, .inside [] h, _, hname, _, hfresh, rfl⟩
  | inside inner h => exact ⟨_, .inside (_ :: inner) h, _, hname, _, hfresh, rfl⟩

/-- A group with flags is opened, or the flags are changed, in the same way. -/
lemma openFlags? (h : Within lead around state state') {s rest : List Char}
    (hnext : state.openFlags? s = some (next, rest)) :
    ∃ next', Within lead around next next' ∧ state'.openFlags? s = some (next', rest) := by
  simp only [ReadState.openFlags?, Option.bind_eq_bind, Option.bind_eq_some_iff] at hnext ⊢
  rw [h.flags_eq]
  obtain ⟨⟨flags, seen, ending, s'⟩, hflags, hnext⟩ := hnext
  cases ending with
  | colon =>
    cases hnext
    exact ⟨_, h.openGroup none flags, _, hflags, rfl⟩
  | parenthesis =>
    obtain ⟨_, hseen, hnext⟩ := Option.bind_eq_some_iff.mp hnext
    cases hnext
    exact ⟨_, (h.withFlags flags).push _, _, hflags,
      Option.bind_eq_some_iff.mpr ⟨_, hseen, rfl⟩⟩

/-- So is any group. -/
lemma openParenthesis? (h : Within lead around state state') {s rest : List Char}
    (hnext : state.openParenthesis? s = some (next, rest)) :
    ∃ next', Within lead around next next' ∧ state'.openParenthesis? s = some (next', rest) := by
  unfold ReadState.openParenthesis? at hnext ⊢
  rw [h.flags_eq]
  split at hnext
  · cases hnext
  · cases hnext
  · cases hnext
  · cases hnext
  · exact h.openNamed? hnext
  · exact h.openNamed? hnext
  · rw [← h.flags_eq]
    exact h.openFlags? hnext
  · cases hnext
    exact ⟨_, h.openCapture, rfl⟩

/-- A part of a pattern is read in the same way within groups and behind other parts. -/
lemma step (h : Within lead around state state') {c : Char} {s rest : List Char}
    (hnext : state.step c s = some (next, rest)) :
    ∃ next', Within lead around next next' ∧ state'.step c s = some (next', rest) := by
  unfold ReadState.step at hnext ⊢
  rw [h.flags_eq]
  dsimp only at hnext ⊢
  split at hnext
  · exact h.openParenthesis? hnext
  · obtain ⟨last, hlast, heq⟩ := Option.map_eq_some_iff.mp hnext
    cases heq
    obtain ⟨next', hwithin, hnext'⟩ := h.closeGroup? hlast
    exact ⟨next', hwithin, Option.map_eq_some_iff.mpr ⟨_, hnext', rfl⟩⟩
  · cases hnext
    exact ⟨_, h.level fun h => h.branch, by rw [← h.flags_eq]⟩
  · simp only [Option.bind_eq_bind, Option.bind_eq_some_iff] at hnext ⊢
    obtain ⟨⟨piece, s'⟩, hpiece, hnext⟩ := hnext
    cases hnext
    exact ⟨_, h.push _, _, hpiece, rfl⟩
  · exact h.repeatWith? hnext
  · exact h.repeatWith? hnext
  · exact h.repeatWith? hnext
  · simp only [Option.bind_eq_bind, Option.bind_eq_some_iff] at hnext ⊢
    obtain ⟨⟨text, s'⟩, htext, ⟨least, most⟩, hbounds, hnext⟩ := hnext
    obtain ⟨next', hwithin, hnext'⟩ := h.repeatWith? hnext
    exact ⟨next', hwithin, _, htext, _, hbounds, hnext'⟩
  · simp only [Option.bind_eq_bind, Option.bind_eq_some_iff] at hnext ⊢
    obtain ⟨cls, hcls, hnext⟩ := hnext
    cases hnext
    exact ⟨_, h.push _, _, hcls, rfl⟩
  · cases hnext
    exact ⟨_, h.push _, rfl⟩
  · cases hnext
    exact ⟨_, h.push _, rfl⟩
  · simp only [Option.bind_eq_bind, Option.bind_eq_some_iff] at hnext ⊢
    obtain ⟨⟨atom, s'⟩, hatom, tree, htree, hnext⟩ := hnext
    cases hnext
    exact ⟨_, h.push _, _, hatom, tree, htree, rfl⟩
  · simp only [Option.bind_eq_bind, Option.bind_eq_some_iff] at hnext ⊢
    obtain ⟨tree, htree, hnext⟩ := hnext
    cases hnext
    exact ⟨_, h.push _, tree, htree, rfl⟩

/-- When no further group is open, the groups around are left, and the level that is behind the
parts. -/
lemma of_enclosing_eq_nil (h : Within lead around state state')
    (henclosing : state.enclosing = []) :
    state'.enclosing = around ∧ state.level.Behind lead state'.level := by
  cases h with
  | outside h => exact ⟨rfl, h⟩
  | inside inner h => simp at henclosing

end Within

/-- Parts of a pattern are read in the same way within groups and behind other parts. -/
lemma Reads.within {lead : List Piece} {around : List OpenGroup} {n : Nat}
    {state last state' : ReadState} {s rest : List Char} (h : Reads n state s last rest)
    (hwithin : Within lead around state state') :
    ∃ last', Within lead around last last' ∧ Reads n state' s last' rest := by
  induction h generalizing state' with
  | done state s => exact ⟨state', hwithin, .done _ _⟩
  | part hskip hstep _ ih =>
    obtain ⟨next', hnext, hstep'⟩ := hwithin.step hstep
    obtain ⟨last', hlast, hreads⟩ := ih hnext
    exact ⟨last', hlast, .part (by rw [hwithin.flags_eq, hskip]) hstep' hreads⟩

end ReadState

end HttpAudit.Pattern
