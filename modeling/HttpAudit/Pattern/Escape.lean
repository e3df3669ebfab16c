import HttpAudit.Pattern.Assertion
import HttpAudit.Pattern.Flags
import HttpAudit.Pattern.PropertyClass

/-!
# Escapes in patterns

What a backslash and the text after it stand for.

## Main definitions

* `HttpAudit.Pattern.Atom` — what a character or an escape stands for.
* `HttpAudit.Pattern.readEscape` — reads an escape.
-/

namespace HttpAudit.Pattern

/-- What a character or an escape of a pattern stands for. -/
inductive Atom where
  /-- A character; `isByte` tells that it is written by the two hexadecimal digits of a byte. -/
  | literal (c : Char) (isByte : Bool)
  /-- A character of a class. -/
  | chars (cls : CharClass)
  /-- A condition on the position. -/
  | assert (assertion : Assertion)

/-- The character with the code point `n`. -/
def charOf? (n : Nat) : Option Char :=
  if n.isValidChar then some (Char.ofNat n) else none

/-- The value of a decimal or hexadecimal digit. -/
def hexValue? (c : Char) : Option Nat :=
  if '0' ≤ c && c ≤ '9' then some (c.toNat - '0'.toNat)
  else if 'a' ≤ c && c ≤ 'f' then some (c.toNat - 'a'.toNat + 10)
  else if 'A' ≤ c && c ≤ 'F' then some (c.toNat - 'A'.toNat + 10)
  else none

/-- The value of hexadecimal digits, after the value of those before. -/
def hexNumber? (value : Nat) : List Char → Option Nat
  | [] => some value
  | c :: rest => (hexValue? c).bind fun d => hexNumber? (16 * value + d) rest

/-- Reads `count` hexadecimal digits after those of the given value. -/
def readHexDigits (flags : Flags) : (count value : Nat) → List Char → Option (Nat × List Char)
  | 0, value, s => some (value, s)
  | _ + 1, _, [] => none
  | count + 1, value, c :: rest =>
    (hexValue? c).bind fun d => readHexDigits flags count (16 * value + d) (flags.skip rest)

/-- Reads a character by its code point in hexadecimal digits, which are `count` or in braces. -/
def readHex (flags : Flags) (count : Nat) (s : List Char) : Option (Atom × List Char) :=
  match flags.skip s with
  | '{' :: rest => do
    let (digits, rest) ← braced flags.extended false rest
    guard !digits.isEmpty
    let c ← charOf? (← hexNumber? 0 digits)
    some (.literal c false, flags.skip rest)
  | s => do
    let (value, rest) ← readHexDigits flags count 0 s
    let c ← charOf? value
    some (.literal c (count == 2), rest)

/-- The text before the first place where `mark` stands, and the text after this. -/
def splitFirst? (mark : List Char) : List Char → Option (List Char × List Char)
  | [] => none
  | c :: rest =>
    if mark.isPrefixOf (c :: rest) then some ([], (c :: rest).drop mark.length)
    else (splitFirst? mark rest).map fun (before, after) => (c :: before, after)

/-- The property that the text in the braces asks for. A sign of inequality counts as one of
equality. -/
def PropertyQuery.ofText (text : List Char) : PropertyQuery :=
  match splitFirst? ['!', '='] text <|> splitFirst? [':'] text <|> splitFirst? ['='] text with
  | some (property, wanted) => .value property wanted
  | none => .name text

/-- Reads the property of a class, a letter or a text in braces. -/
def readProperty (flags : Flags) (negated : Bool) (s : List Char) : Option (Atom × List Char) :=
  match flags.skip s with
  | [] => none
  | '\\' :: _ => none
  | '{' :: rest => do
    let (text, rest) ← braced flags.extended false rest
    some (.chars (← cls? (.ofText text)), rest)
  | c :: rest => do
    some (.chars (← cls? (.name [c])), flags.skip rest)
where
  /-- The class that is asked for. -/
  cls? (query : PropertyQuery) : Option CharClass := do
    guard flags.unicode
    flags.negateClass? negated (flags.foldClass (← query.class?))

/-- The class of a single letter. -/
def shorthandClass? (flags : Flags) (cls : ShorthandClass) (negated : Bool) : Option CharClass :=
  flags.negateClass? negated (if flags.unicode then cls.unicode else cls.ascii)

/-- The words whose characters count, under the flags. -/
def Flags.wordKind (flags : Flags) : WordKind :=
  if flags.unicode then .unicode else .ascii

/-- The named boundaries of words. -/
def boundary? (kind : WordKind) (name : List Char) : Option Assertion :=
  if name == "start".toList then some (.wordStart kind)
  else if name == "end".toList then some (.wordEnd kind)
  else if name == "start-half".toList then some (.wordStartHalf kind)
  else if name == "end-half".toList then some (.wordEndHalf kind)
  else none

/-- Whether a character may stand in the name of a boundary. -/
def isBoundaryChar (c : Char) : Bool :=
  c.isAlpha || c == '-'

/-- Reads what follows an escaped `b`: a name in braces, or nothing that belongs to it. -/
def readBoundary (flags : Flags) (s : List Char) : Option (Atom × List Char) :=
  match s with
  | '{' :: rest =>
    match flags.skip rest with
    | [] => none
    | c :: _ =>
      if isBoundaryChar c then do
        let (name, rest) ← braced flags.extended false rest
        some (.assert (← boundary? flags.wordKind name), rest)
      else some (.assert (.wordBoundary flags.wordKind), s)
  | _ => some (.assert (.wordBoundary flags.wordKind), s)

/-- Whether an escaped character stands for itself: ASCII characters other than letters, digits
and angle brackets. -/
def isEscapable (c : Char) : Bool :=
  c.toNat < 128 && !c.isAlphanum && c != '<' && c != '>'

/-- Reads an escape, from behind the backslash. -/
def readEscape (flags : Flags) : List Char → Option (Atom × List Char)
  | [] => none
  | c :: rest =>
    let literal (n : Nat) := some (Atom.literal (Char.ofNat n) false, rest)
    let assert (a : Assertion) := some (Atom.assert a, rest)
    let shorthand (cls : ShorthandClass) (negated : Bool) :=
      (shorthandClass? flags cls negated).map fun cls => (Atom.chars cls, rest)
    match c with
    | 'x' => readHex flags 2 rest
    | 'u' => readHex flags 4 rest
    | 'U' => readHex flags 8 rest
    | 'p' => readProperty flags false rest
    | 'P' => readProperty flags true rest
    | 'd' => shorthand .digit false
    | 'D' => shorthand .digit true
    | 's' => shorthand .blank false
    | 'S' => shorthand .blank true
    | 'w' => shorthand .word false
    | 'W' => shorthand .word true
    | 'a' => literal 7
    | 'f' => literal 12
    | 't' => literal 9
    | 'n' => literal 10
    | 'r' => literal 13
    | 'v' => literal 11
    | 'A' => assert .startText
    | 'z' => assert .endText
    | 'b' => readBoundary flags rest
    | 'B' => assert (.notWordBoundary flags.wordKind)
    | '<' => assert (.wordStart flags.wordKind)
    | '>' => assert (.wordEnd flags.wordKind)
    | c => if isEscapable c then literal c.toNat else none

end HttpAudit.Pattern
