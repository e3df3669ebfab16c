import HttpAudit.Pattern.Escape

/-!
# Classes in brackets

The classes of characters that a pattern writes in brackets: lists of characters, ranges and other
classes, and their intersections and differences.

## Main definitions

* `HttpAudit.Pattern.SetPiece` — a part of such a class, with the depth of its nesting.
* `HttpAudit.Pattern.readBracket` — reads a class in brackets.
-/

namespace HttpAudit.Pattern

/-- A part of a class in brackets. -/
structure SetPiece where
  /-- The class that it denotes. -/
  cls : CharClass
  /-- The depth of its nesting. -/
  depth : Nat

/-- The binary operations of classes. -/
inductive SetOp where
  /-- What belongs to both. -/
  | inter
  /-- What belongs to the first alone. -/
  | diff
  /-- What belongs to one alone. -/
  | symmDiff
  deriving DecidableEq, Repr

/-- The union of the items of a class. -/
def SetPiece.union : List SetPiece → SetPiece
  | [] => ⟨.none, 0⟩
  | [item] => item
  | items => ⟨.unions (items.map (·.cls)), (items.map (·.depth)).foldl max 0 + 1⟩

/-- The operation of two parts; if case does not count it is one of the parts with all cases. -/
def SetPiece.combine (flags : Flags) (op : SetOp) (a b : SetPiece) : SetPiece :=
  let x := flags.foldClass a.cls
  let y := flags.foldClass b.cls
  ⟨match op with
    | .inter => .inter x y
    | .diff => .diff x y
    | .symmDiff => .symmDiff x y,
   max a.depth b.depth + 1⟩

/-- A class in brackets of which a part has been read. -/
structure SetState where
  /-- Whether the class is the complement of what is in the brackets. -/
  negated : Bool
  /-- The left side of the operation whose right side is being read. -/
  pending : Option (SetOp × SetPiece)
  /-- The items read since, last to first. -/
  items : List SetPiece

namespace SetState

/-- The class read so far, without the complement. -/
def current (flags : Flags) (state : SetState) : SetPiece :=
  let right := SetPiece.union state.items.reverse
  match state.pending with
  | none => right
  | some (op, left) => .combine flags op left right

/-- The class with another item. -/
def push (state : SetState) (item : SetPiece) : SetState :=
  { state with items := item :: state.items }

/-- The class with an operator behind what was read. -/
def operate (flags : Flags) (state : SetState) (op : SetOp) : SetState :=
  { state with pending := some (op, state.current flags), items := [] }

/-- The whole class, at its closing bracket. -/
def close? (flags : Flags) (state : SetState) : Option SetPiece :=
  let inner := state.current flags
  (flags.negateClass? state.negated (flags.foldClass inner.cls)).map fun cls =>
    ⟨cls, inner.depth + 1⟩

end SetState

/-- Counts the hyphens at the start of a text, and leaves out what is ignored. -/
def readHyphens (extended : Bool) : (inComment : Bool) → List Char → Nat × List Char
  | _, [] => (0, [])
  | true, c :: rest => readHyphens extended (c != '\n') rest
  | false, c :: rest =>
    if c == '-' then
      let (n, rest) := readHyphens extended false rest
      (n + 1, rest)
    else if extended && Text.isBlank c then readHyphens extended false rest
    else if extended && c == '#' then readHyphens extended true rest
    else (0, c :: rest)

/-- Reads the start of a class, from behind its opening bracket. Hyphens and then a closing
bracket are items there. -/
def openSet (flags : Flags) (s : List Char) : SetState × List Char :=
  let (negated, s) := match flags.skip s with
    | '^' :: rest => (true, rest)
    | s => (false, s)
  let (count, s) := readHyphens flags.extended false s
  let hyphens := List.replicate count ⟨.single '-', 0⟩
  match count, s with
  | 0, ']' :: rest => (⟨negated, none, [⟨.single ']', 0⟩]⟩, rest)
  | _, s => (⟨negated, none, hyphens⟩, s)

/-- Reads the name of an ASCII class, from behind its opening bracket, with its colons and its
closing bracket. -/
def readNamedClass? (s : List Char) : Option (Bool × CharClass × List Char) :=
  match s with
  | ':' :: '^' :: rest => named true rest
  | ':' :: rest => named false rest
  | _ => none
where
  /-- The name with what follows it. -/
  named (negated : Bool) (s : List Char) : Option (Bool × CharClass × List Char) :=
    match splitFirst? [':'] s with
    | some (name, ']' :: rest) =>
      (CharClass.posix? (String.ofList name)).map fun cls => (negated, cls, rest)
    | _ => none

/-- Reads a character or an escape of a class. -/
def readSetAtom (flags : Flags) : List Char → Option (Atom × List Char)
  | [] => none
  | '\\' :: rest => readEscape flags rest
  | c :: rest => some (.literal c false, rest)

/-- The character of a literal, which must be ASCII without Unicode. -/
def Atom.char? (flags : Flags) : Atom → Option Char
  | .literal c _ => if flags.unicode || c.toNat < 128 then some c else none
  | _ => none

/-- The class of an atom, which must not be an assertion. -/
def Atom.setPiece? (flags : Flags) (atom : Atom) : Option SetPiece :=
  match atom with
  | .chars cls => some ⟨cls, 0⟩
  | atom => (atom.char? flags).map fun c => ⟨.single c, 0⟩

/-- The character that comes next when blanks are left out, as a hyphen looks at it. A comment is
looked into. -/
def peekItem (flags : Flags) (s : List Char) : Option Char :=
  if flags.extended then
    let t := match s.dropWhile Text.isBlank with
      | '#' :: rest => rest.dropWhile Text.isBlank
      | t => t
    t.head? <|> s.head?
  else s.head?

/-- Reads an atom or a range of a class. -/
def readRange (flags : Flags) (s : List Char) : Option (SetPiece × List Char) := do
  let (low, rest) ← readSetAtom flags s
  let rest := flags.skip rest
  match rest with
  | '-' :: more =>
    if peekItem flags more == some ']' || peekItem flags more == some '-' then
      some (← low.setPiece? flags, rest)
    else
      let (high, rest) ← readSetAtom flags (flags.skip more)
      let lo ← low.char? flags
      let hi ← high.char? flags
      guard (lo ≤ hi)
      some (⟨.range lo.toNat hi.toNat, 0⟩, rest)
  | _ => some (← low.setPiece? flags, rest)

/-- Reads the rest of a class in brackets. Each step leaves out a character at least, so that
`fuel` need not exceed the length of the text. -/
def readSet (flags : Flags) :
    (fuel : Nat) → SetState → List Char → Option (SetPiece × List Char)
  | 0, _, _ => none
  | fuel + 1, state, s =>
    match flags.skip s with
    | [] => none
    | ']' :: rest => (state.close? flags).map fun piece => (piece, rest)
    | '&' :: '&' :: rest => readSet flags fuel (state.operate flags .inter) rest
    | '-' :: '-' :: rest => readSet flags fuel (state.operate flags .diff) rest
    | '~' :: '~' :: rest => readSet flags fuel (state.operate flags .symmDiff) rest
    | '[' :: rest =>
      match readNamedClass? rest with
      | some (negated, cls, rest) => do
        let cls ← flags.negateClass? negated (flags.foldClass cls)
        readSet flags fuel (state.push ⟨cls, 0⟩) rest
      | none => do
        let (inner, rest) := openSet flags rest
        let (piece, rest) ← readSet flags fuel inner rest
        readSet flags fuel (state.push piece) rest
    | s => do
      let (piece, rest) ← readRange flags s
      readSet flags fuel (state.push piece) rest

/-- Reads a class in brackets, from behind its opening bracket. -/
def readBracket (flags : Flags) (s : List Char) : Option (SetPiece × List Char) :=
  let (state, rest) := openSet flags s
  readSet flags (s.length + 1) state rest

end HttpAudit.Pattern
