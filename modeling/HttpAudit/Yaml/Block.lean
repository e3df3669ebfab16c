import HttpAudit.Yaml.Gap

/-!
# Block scalars

A scalar that takes the lines below its header, as far as they are indented. The lines are kept,
or folded as in the other scalars. The header tells what becomes of the line breaks at the end.

## Main definitions

* `HttpAudit.Yaml.takeBlock` — reads a block scalar.
-/

namespace HttpAudit.Yaml

/-- What becomes of the line breaks at the end of a block scalar. -/
inductive Chomping where
  /-- None is kept. -/
  | strip
  /-- The first is kept. -/
  | clip
  /-- All are kept. -/
  | keep
  deriving DecidableEq, Repr

/-- Reads what a header tells about the line breaks at the end. -/
def takeChomping (c : Cursor) : Option (Chomping × Cursor) :=
  match c.next? with
  | some '+' => some (.keep, c.skip 1)
  | some '-' => some (.strip, c.skip 1)
  | _ => none

/-- Reads the indentation that a header asks for, which is not zero. -/
def takeIncrement (c : Cursor) : Option (Option Nat × Cursor) :=
  match c.next? with
  | some char =>
    if char == '0' then none
    else if char.isDigit then some (some (char.toNat - '0'.toNat), c.skip 1)
    else some (none, c)
  | none => some (none, c)

/-- Reads a header behind its first character, with the line that it stands on. -/
def takeHeader (c : Cursor) : Option (Chomping × Option Nat × Cursor) := do
  let (chomping, increment, c) ← match takeChomping c with
    | some (chomping, c) => do
      let (increment, c) ← takeIncrement c
      some (chomping, increment, c)
    | none => do
      let (increment, c) ← takeIncrement c
      match increment, takeChomping c with
      | some _, some (chomping, c) => some (chomping, increment, c)
      | _, _ => some (.clip, increment, c)
  let c := c.dropWhile isBlank
  let c := if c.startsWith '#' then c.dropWhile (!isBreak ·) else c
  if c.atLineEnd then some (chomping, increment, c.takeBreak.2) else none

/-- Reads empty lines, and the indentation of the line behind them. Without a known indentation,
all spaces are read, and the greatest number of them on a line is returned. -/
def takeEmptyLines (indent : Option Nat) : (fuel : Nat) → (widest : Nat) → (breaks : List Char) →
    Cursor → Option (List Char × Nat × Cursor)
  | 0, _, _, _ => none
  | fuel + 1, widest, breaks, c =>
    let limit := match indent with
      | some n => n - c.column
      | none => c.rest.length
    let c := c.skip ((c.rest.take limit).takeWhile (· == ' ')).length
    let widest := max widest c.column
    let short := match indent with
      | some n => decide (c.column < n)
      | none => true
    if short && c.startsWith '\t' then none
    else if c.sees 0 isBreak false then
      let (text, c) := c.takeBreak
      takeEmptyLines indent fuel widest (breaks ++ text) c
    else some (breaks, widest, c)

/-- A block scalar while it is being read. -/
structure BlockText where
  /-- What has been read. -/
  read : List Char := []
  /-- The break at the end of the last line. -/
  last : List Char := []
  /-- The breaks of the empty lines behind it. -/
  empty : List Char := []
  /-- Whether the last line starts with a blank. -/
  blank : Bool := false

/-- Whether the break before a line is folded. -/
def BlockText.folds (t : BlockText) (literal blank : Bool) : Bool :=
  !literal && t.last == ['\n'] && !t.blank && !blank

/-- The scalar with one more line, before the break at the end of that line. -/
def BlockText.addLine (t : BlockText) (literal : Bool) (line : List Char) : BlockText :=
  let blank := match line with
    | char :: _ => isBlank char
    | [] => false
  let gap := if t.folds literal blank then foldBreaks t.last t.empty else t.last ++ t.empty
  { read := t.read ++ gap ++ line, blank }

/-- Reads the lines of a block scalar. The `fuel` is at least the length of the text. -/
def takeLines (literal : Bool) (indent : Nat) : (fuel : Nat) → BlockText → Cursor →
    Option (BlockText × Cursor)
  | 0, t, c => some (t, c)
  | fuel + 1, t, c =>
    if c.column == indent && !c.rest.isEmpty then
      let (line, c) := c.takeWhile (!isBreak ·)
      let t := t.addLine literal line
      let (last, c) := c.takeBreak
      match takeEmptyLines (some indent) (c.rest.length + 1) 0 [] c with
      | some (empty, _, c) => takeLines literal indent fuel { t with last, empty } c
      | none => none
    else some (t, c)

/-- What is kept of a block scalar at its end. -/
def BlockText.chomp (t : BlockText) : Chomping → List Char
  | .strip => t.read
  | .clip => t.read ++ t.last
  | .keep => t.read ++ t.last ++ t.empty

/-- Reads the block scalar that starts here, in a block with the given indentation, if there is
one. -/
def takeBlock (literal : Bool) (parent : Option Nat) (c : Cursor) :
    Option (List Char × Cursor) := do
  let (chomping, increment, c) ← takeHeader (c.skip 1)
  let known := increment.map (parent.getD 0 + ·)
  let (empty, widest, c) ← takeEmptyLines known (c.rest.length + 1) 0 [] c
  let least := match parent with
    | some n => n + 1
    | none => 1
  let (t, c) ← takeLines literal (known.getD (max widest least)) (c.rest.length + 1) { empty } c
  some (t.chomp chomping, c)

end HttpAudit.Yaml
