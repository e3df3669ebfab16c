import HttpAudit.Pattern.Bracket
import HttpAudit.Pattern.Syntax

/-!
# Reading patterns

The tree of a pattern is read in one pass over its text. The groups that are open at a place are
kept in a list, so that reading is a loop over single steps.

## Main definitions

* `HttpAudit.Pattern.Piece` — a tree with the depth of its nesting.
* `HttpAudit.Pattern.ReadState` — what has been read of a pattern.
* `HttpAudit.Pattern.ReadState.step` — reads the next part of a pattern.
* `HttpAudit.Pattern.parse?` — the tree of a pattern.
-/

namespace HttpAudit.Pattern

/-- A part of a pattern. -/
structure Piece where
  /-- Its tree. -/
  tree : Syntax
  /-- The depth of its nesting. -/
  depth : Nat
  /-- Whether it may be repeated; a change of flags may not. -/
  repeatable : Bool := true

namespace Piece

/-- The depth of a node above the given parts. -/
def depthAbove (pieces : List Piece) : Nat :=
  (pieces.map (·.depth)).foldl max 0 + 1

/-- The parts one after the other. -/
def sequence : List Piece → Piece
  | [] => ⟨.empty, 0, true⟩
  | [piece] => piece
  | pieces => ⟨.sequence (pieces.map (·.tree)), depthAbove pieces, true⟩

/-- The first of the parts that matches. -/
def choice : List Piece → Piece
  | [] => ⟨.empty, 0, true⟩
  | [piece] => piece
  | pieces => ⟨.choice (pieces.map (·.tree)), depthAbove pieces, true⟩

end Piece

/-- A level of nesting: the branches of a choice read so far, and the parts of the next one. -/
structure Level where
  /-- The complete branches, last to first. -/
  branches : List Piece
  /-- The parts of the incomplete branch, last to first. -/
  items : List Piece

namespace Level

/-- The level before anything is read. -/
def start : Level := ⟨[], []⟩

/-- The level with another part. -/
def push (level : Level) (piece : Piece) : Level :=
  { level with items := piece :: level.items }

/-- The level with its branch completed. -/
def branch (level : Level) : Level :=
  ⟨.sequence level.items.reverse :: level.branches, []⟩

/-- All of the level. -/
def close (level : Level) : Piece :=
  .choice level.branch.branches.reverse

end Level

/-- An open group. -/
structure OpenGroup where
  /-- The index of a capturing group. -/
  index : Option Nat
  /-- The flags in force outside the group. -/
  flags : Flags
  /-- The level around the group. -/
  outer : Level

/-- What has been read of a pattern. -/
structure ReadState where
  /-- The flags in force. -/
  flags : Flags
  /-- The number of capturing groups so far. -/
  groups : Nat
  /-- The named groups so far, with their indices. -/
  names : List (List Char × Nat)
  /-- The open groups, innermost first. -/
  enclosing : List OpenGroup
  /-- The innermost level. -/
  level : Level

namespace ReadState

/-- The state before anything is read. -/
def start : ReadState := ⟨{}, 0, [], [], .start⟩

/-- The state with another part read. -/
def push (state : ReadState) (piece : Piece) : ReadState :=
  { state with level := state.level.push piece }

/-- Repeats the last part. -/
def repeatLast? (state : ReadState) (least : Nat) (most : Option Nat) (lazy : Bool) :
    Option ReadState :=
  match state.level.items with
  | [] => none
  | piece :: items =>
    if piece.repeatable then
      let tree := piece.tree.repeated least most (lazy == state.flags.swapGreed)
      some { state with level.items := ⟨tree, piece.depth + 1, true⟩ :: items }
    else none

/-- Opens a group within which `flags` are in force. -/
def openGroup (state : ReadState) (index : Option Nat) (flags : Flags) : ReadState :=
  { state with
    flags
    enclosing := ⟨index, state.flags, state.level⟩ :: state.enclosing
    level := .start }

/-- Opens a capturing group. -/
def openCapture (state : ReadState) : ReadState :=
  { state.openGroup (some (state.groups + 1)) state.flags with groups := state.groups + 1 }

/-- Closes the innermost group. -/
def closeGroup? (state : ReadState) : Option ReadState :=
  match state.enclosing with
  | [] => none
  | group :: enclosing =>
    let inner := state.level.close
    let tree := match group.index with
      | some index => .group index inner.tree
      | none => inner.tree
    some
      { state with
        flags := group.flags
        enclosing
        level := group.outer.push ⟨tree, inner.depth + 1, true⟩ }

end ReadState

/-- Whether a character may stand in the name of a group. -/
def isNameChar (isFirst : Bool) (c : Char) : Bool :=
  if isFirst then c == '_' || Text.Property.isAlphabetic c.toNat
  else c == '_' || c == '.' || c == '[' || c == ']' || Text.Property.isAlphanumeric c.toNat

/-- Reads the name of a group, from behind its opening bracket. -/
def readName (s : List Char) : Option (List Char × List Char) := do
  let (name, rest) ← splitFirst? ['>'] s
  let first :: more := name | none
  guard (isNameChar true first && more.all (isNameChar false))
  some (name, rest)

/-- The number with the given decimal digits, if it fits into thirty-two bits. -/
def count? (digits : List Char) : Option Nat := do
  let digits := Text.trim digits
  guard (!digits.isEmpty && digits.all Char.isDigit)
  let n := digits.foldl (fun n d => 10 * n + (d.toNat - '0'.toNat)) 0
  guard (n < Nat.pow 2 32)
  some n

/-- The bounds of a counted repetition, from the text in its braces. -/
def bounds? (text : List Char) : Option (Nat × Option Nat) :=
  match splitFirst? [','] text with
  | none => do
    let n ← count? text
    some (n, some n)
  | some (least, []) => do
    some (← count? least, none)
  | some (least, most) => do
    let n ← count? least
    let m ← count? most
    guard (n ≤ m)
    some (n, some m)

namespace ReadState

/-- Repeats the last part; a question mark behind the operator makes it lazy. -/
def repeatWith? (state : ReadState) (least : Nat) (most : Option Nat) (s : List Char) :
    Option (ReadState × List Char) :=
  match s with
  | '?' :: rest => (state.repeatLast? least most true).map (·, rest)
  | _ => (state.repeatLast? least most false).map (·, s)

/-- Opens a named group, from behind the bracket before its name. -/
def openNamed? (state : ReadState) (s : List Char) : Option (ReadState × List Char) := do
  let (name, rest) ← readName s
  guard (!(state.names.map (·.1)).contains name)
  let inner := state.openCapture
  some ({ inner with names := state.names ++ [(name, inner.groups)] }, rest)

/-- Opens a group, or changes the flags, from behind a parenthesis. -/
def openParenthesis? (state : ReadState) (s : List Char) : Option (ReadState × List Char) :=
  match state.flags.skip s with
  | '?' :: '=' :: _ | '?' :: '!' :: _ | '?' :: '<' :: '=' :: _ | '?' :: '<' :: '!' :: _ => none
  | '?' :: 'P' :: '<' :: rest | '?' :: '<' :: rest => state.openNamed? rest
  | '?' :: rest => do
    let (flags, seen, ending, rest) ← state.flags.read [] rest
    match ending with
    | .colon => some (state.openGroup none flags, rest)
    | .parenthesis =>
      guard !seen.isEmpty
      some ({ state with flags }.push ⟨.empty, 0, false⟩, rest)
  | rest => some (state.openCapture, rest)

end ReadState

/-- The tree of an atom. A byte that is no character is refused. -/
def Atom.tree? (flags : Flags) : Atom → Option Syntax
  | .literal c isByte =>
    if !flags.unicode && isByte && 128 ≤ c.toNat then none
    else if flags.ignoreCase && !Text.Case.isCaseless c.toNat && (flags.unicode || c.isAlpha) then
      some (.chars (flags.foldClass (.single c)))
    else some (.chars (.single c))
  | .chars cls => some (.chars cls)
  | .assert assertion => some (.assert assertion)

/-- The class of the dot. -/
def Flags.dot? (flags : Flags) : Option CharClass :=
  if !flags.unicode then none
  else if flags.dotAll then some .any
  else if flags.crlf then some (.compl (.unions [.single '\n', .single '\r']))
  else some (.compl (.single '\n'))

namespace ReadState

/-- Reads the next part of a pattern, which starts with the character `c`. -/
def step (state : ReadState) (c : Char) (rest : List Char) : Option (ReadState × List Char) :=
  let flags := state.flags
  let leaf (tree : Syntax) (rest : List Char) := some (state.push ⟨tree, 0, true⟩, rest)
  match c with
  | '(' => state.openParenthesis? rest
  | ')' => state.closeGroup?.map (·, rest)
  | '|' => some ({ state with level := state.level.branch }, rest)
  | '[' => do
    let (piece, rest) ← readBracket flags rest
    some (state.push ⟨.chars piece.cls, piece.depth, true⟩, rest)
  | '?' => state.repeatWith? 0 (some 1) rest
  | '*' => state.repeatWith? 0 none rest
  | '+' => state.repeatWith? 1 none rest
  | '{' => do
    let (text, rest) ← braced flags.extended false rest
    let (least, most) ← bounds? text
    state.repeatWith? least most (flags.skip rest)
  | '.' => do
    leaf (.chars (← flags.dot?)) rest
  | '^' => leaf (.assert (if flags.multiLine then .startLine flags.crlf else .startText)) rest
  | '$' => leaf (.assert (if flags.multiLine then .endLine flags.crlf else .endText)) rest
  | '\\' => do
    let (atom, rest) ← readEscape flags rest
    leaf (← atom.tree? flags) rest
  | c => do
    leaf (← (Atom.literal c false).tree? flags) rest

/-- Reads a pattern to its end. Each step leaves out a character at least, so that `fuel` need not
exceed the length of the text. -/
def read? : (fuel : Nat) → ReadState → List Char → Option ReadState
  | fuel, state, s =>
    match state.flags.skip s with
    | [] => if state.enclosing.isEmpty then some state else none
    | c :: rest =>
      match fuel with
      | 0 => none
      | fuel + 1 =>
        match state.step c rest with
        | some (state, rest) => read? fuel state rest
        | none => none

end ReadState

/-- The greatest depth of nesting in a pattern. -/
def maxDepth : Nat := 250

/-- The tree of a pattern with the names of its groups, or `none` if it is not well-formed. -/
def parse? (s : List Char) : Option (Syntax × List (List Char × Nat)) := do
  let state ← ReadState.start.read? s.length s
  let piece := state.level.close
  guard (piece.depth ≤ maxDepth)
  some (piece.tree, state.names)

end HttpAudit.Pattern
