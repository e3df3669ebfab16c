/-!
# Places in a text

A text is read from front to back, and what it means depends on where on its line something
stands.

## Main definitions

* `HttpAudit.Yaml.Cursor` — a place in a text.
* `HttpAudit.Yaml.Cursor.takeWhile` — reads on as long as the characters satisfy a test.
* `HttpAudit.Yaml.Cursor.takeBreak` — reads the break at the end of a line.
-/

namespace HttpAudit.Yaml

/-- Whether a character parts words on a line. -/
def isBlank (c : Char) : Bool := c == ' ' || c == '\t'

/-- Whether a character ends a line. -/
def isBreak (c : Char) : Bool :=
  c == '\n' || c == '\r' || [0x85, 0x2028, 0x2029].contains c.toNat

/-- Whether a character may occur in a text at all. -/
def isPrintable (c : Char) : Bool :=
  let n := c.toNat
  c == '\t' || c == '\n' || c == '\r' || (0x20 ≤ n && n ≤ 0x7E) || n == 0x85 ||
    (0xA0 ≤ n && n != 0xFFFE && n != 0xFFFF)

/-- Whether a character may occur in a name. -/
def isNameChar (c : Char) : Bool := c.isAlphanum || c == '_' || c == '-'

/-- A place in a text. -/
structure Cursor where
  /-- The text from this place on. -/
  rest : List Char
  /-- The number of characters before it. -/
  index : Nat := 0
  /-- The number of lines before its own. -/
  line : Nat := 0
  /-- The number of characters before it on its line. -/
  column : Nat := 0
  deriving DecidableEq, Repr

namespace Cursor

/-- The next character. -/
def next? (c : Cursor) : Option Char := c.rest.head?

/-- Whether the next character is a given one. -/
def startsWith (c : Cursor) (char : Char) : Bool := c.next? == some char

/-- Whether the character behind the next `n` satisfies a test. At the end of the text the answer
is `atEnd`. -/
def sees (c : Cursor) (n : Nat) (test : Char → Bool) (atEnd : Bool) : Bool :=
  match c.rest[n]? with
  | some char => test char
  | none => atEnd

/-- Whether behind the next `n` characters there is a blank, or the end of a line. -/
def seesGap (c : Cursor) (n : Nat) : Bool :=
  c.sees n (fun char => isBlank char || isBreak char) true

/-- Whether the line ends here. -/
def atLineEnd (c : Cursor) : Bool := c.sees 0 isBreak true

/-- The place behind the next characters, which are on the same line. -/
def skip (c : Cursor) (n : Nat) : Cursor :=
  { c with rest := c.rest.drop n, index := c.index + n, column := c.column + n }

/-- The characters from here on that satisfy a test, and the place behind them. -/
def takeWhile (c : Cursor) (test : Char → Bool) : List Char × Cursor :=
  let taken := c.rest.takeWhile test
  (taken, c.skip taken.length)

/-- The place behind the characters that satisfy a test. -/
def dropWhile (c : Cursor) (test : Char → Bool) : Cursor := (c.takeWhile test).2

/-- The break that ends this line, as it is kept in texts, and the start of the next line. All
breaks of one line are kept as line feeds, those of lines and paragraphs as they are. -/
def takeBreak (c : Cursor) : List Char × Cursor :=
  let nextLine (rest : List Char) (n : Nat) : Cursor := ⟨rest, c.index + n, c.line + 1, 0⟩
  match c.rest with
  | '\r' :: '\n' :: rest => (['\n'], nextLine rest 2)
  | char :: rest =>
    if char.toNat == 0x2028 || char.toNat == 0x2029 then ([char], nextLine rest 1)
    else if isBreak char then (['\n'], nextLine rest 1)
    else ([], c)
  | [] => ([], c)

/-- Whether a line that is a mark between documents starts here. -/
def atDocumentMark (c : Cursor) : Bool :=
  c.column == 0 && ("---".toList.isPrefixOf c.rest || "...".toList.isPrefixOf c.rest) &&
    c.seesGap 3

end Cursor

end HttpAudit.Yaml
