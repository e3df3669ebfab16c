import HttpAudit.Yaml.Block
import HttpAudit.Yaml.Plain
import HttpAudit.Yaml.Tag

/-!
# From a text to tokens

The nesting of blocks shows in their indentation, and that something is a key shows only behind it,
by a colon. So the tokens that open a mapping and announce a key are put in front of what has
already been read.

## Main definitions

* `HttpAudit.Yaml.Scanner` — the state of reading a text.
* `HttpAudit.Yaml.tokens?` — the tokens of a text.
-/

namespace HttpAudit.Yaml

/-- Something that may turn out to be a key. -/
structure KeyCandidate where
  /-- The number of tokens before it. -/
  position : Nat
  /-- Where it starts. -/
  start : Cursor
  /-- Whether it has to be a key, since it starts a line of a block. -/
  required : Bool

/-- The state of reading a text. -/
structure Scanner where
  /-- The place in the text. -/
  cursor : Cursor
  /-- The tokens so far. -/
  tokens : List Token := []
  /-- The indentation of the open blocks, innermost first. -/
  indents : List Nat := []
  /-- What may turn out to be a key, outside of all brackets and braces. -/
  outerKey : Option KeyCandidate := none
  /-- The same within each pair of brackets or braces, innermost first. -/
  flowKeys : List (Option KeyCandidate) := []
  /-- Whether a key may start here. -/
  keyAllowed : Bool := true

namespace Scanner

/-- Whether the place is within brackets or braces. -/
def inFlow (s : Scanner) : Bool := !s.flowKeys.isEmpty

/-- What may turn out to be a key here. -/
def candidate (s : Scanner) : Option KeyCandidate := s.flowKeys.headD s.outerKey

/-- The state with something else that may turn out to be a key here. -/
def setCandidate (s : Scanner) (candidate : Option KeyCandidate) : Scanner :=
  match s.flowKeys with
  | [] => { s with outerKey := candidate }
  | _ :: outer => { s with flowKeys := candidate :: outer }

/-- The state in which nothing can turn out to be a key here any more. -/
def dropCandidate (s : Scanner) : Option Scanner :=
  match s.candidate with
  | some candidate => if candidate.required then none else some (s.setCandidate none)
  | none => some s

/-- The state in which what starts here may turn out to be a key, where that is allowed. -/
def saveCandidate (s : Scanner) : Option Scanner :=
  if s.keyAllowed then do
    let required := !s.inFlow && s.indents.head? == some s.cursor.column
    let s ← s.dropCandidate
    some (s.setCandidate (some ⟨s.tokens.length, s.cursor, required⟩))
  else some s

/-- Whether a key that starts at a place can still end at another: on the same line, and not too
far away. -/
def isInReach (start cursor : Cursor) : Bool :=
  start.line == cursor.line && cursor.index ≤ start.index + 1024

/-- What is left of a candidate at the place reached. -/
def freshCandidate (s : Scanner) : Option KeyCandidate → Option (Option KeyCandidate)
  | some candidate =>
    if isInReach candidate.start s.cursor then some (some candidate)
    else if candidate.required then none
    else some none
  | none => some none

/-- The state without the candidates that are out of reach. -/
def dropStale (s : Scanner) : Option Scanner := do
  let outerKey ← s.freshCandidate s.outerKey
  let flowKeys ← s.flowKeys.mapM s.freshCandidate
  some { s with outerKey, flowKeys }

/-- The state with one more token, which is `width` characters long. -/
def emit (s : Scanner) (token : Token) (width : Nat) : Scanner :=
  { s with tokens := s.tokens ++ [token], cursor := s.cursor.skip width }

/-- The state in which the blocks are closed that are indented more than a column, or all. -/
def closeBlocks (s : Scanner) (column : Option Nat) : Scanner :=
  if s.inFlow then s
  else
    let isDeeper (indent : Nat) := match column with
      | some column => decide (column < indent)
      | none => true
    let closed := (s.indents.takeWhile isDeeper).length
    { s with
      indents := s.indents.drop closed
      tokens := s.tokens ++ List.replicate closed .blockEnd }

/-- The state in which a block is opened at a column, unless one is open there already. The token
is put in front of those from `position` on. -/
def openBlock (s : Scanner) (column position : Nat) (token : Token) : Scanner :=
  let isNew := match s.indents with
    | [] => true
    | indent :: _ => decide (indent < column)
  if !s.inFlow && isNew then
    { s with indents := column :: s.indents, tokens := s.tokens.insertIdx position token }
  else s

/-- The state behind the blanks, comments and line breaks before the next token. The `fuel` is at
least the length of the text. -/
def toTokenFrom : (fuel : Nat) → Scanner → Scanner
  | 0, s => s
  | fuel + 1, s =>
    let c := s.cursor
    let c := if c.index == 0 && c.startsWith (Char.ofNat 0xFEFF) then c.skip 1 else c
    let tabs := s.inFlow || !s.keyAllowed
    let c := c.dropWhile fun char => char == ' ' || (tabs && char == '\t')
    let c := if c.startsWith '#' then c.dropWhile (!isBreak ·) else c
    if c.sees 0 isBreak false then
      toTokenFrom fuel { s with cursor := c.takeBreak.2, keyAllowed := s.keyAllowed || !s.inFlow }
    else { s with cursor := c }

/-- The state before the next token. -/
def toToken (s : Scanner) : Scanner := toTokenFrom (s.cursor.rest.length + 1) s

/-- Reads a directive. -/
def directive (s : Scanner) : Option Scanner := do
  let s ← (s.closeBlocks none).dropCandidate
  let (token, cursor) ← takeDirective s.cursor
  some { s with tokens := s.tokens ++ [token], cursor, keyAllowed := false }

/-- Reads a mark between documents. -/
def documentMark (s : Scanner) (token : Token) : Option Scanner := do
  let s ← (s.closeBlocks none).dropCandidate
  some ({ s with keyAllowed := false }.emit token 3)

/-- Reads an opening bracket or brace. -/
def openFlow (s : Scanner) (token : Token) : Option Scanner := do
  let s ← s.saveCandidate
  some ({ s with flowKeys := none :: s.flowKeys, keyAllowed := true }.emit token 1)

/-- Reads a closing bracket or brace. -/
def closeFlow (s : Scanner) (token : Token) : Option Scanner := do
  let s ← s.dropCandidate
  some ({ s with flowKeys := s.flowKeys.tail, keyAllowed := false }.emit token 1)

/-- Reads a comma. -/
def comma (s : Scanner) : Option Scanner := do
  let s ← s.dropCandidate
  some ({ s with keyAllowed := true }.emit .flowEntry 1)

/-- Reads the sign of an entry of a sequence. -/
def entry (s : Scanner) : Option Scanner := do
  if !s.inFlow && !s.keyAllowed then none
  let s := s.openBlock s.cursor.column s.tokens.length .blockSequenceStart
  let s ← s.dropCandidate
  some ({ s with keyAllowed := true }.emit .blockEntry 1)

/-- Reads the sign of a key. -/
def key (s : Scanner) : Option Scanner := do
  if !s.inFlow && !s.keyAllowed then none
  let s := s.openBlock s.cursor.column s.tokens.length .blockMappingStart
  let s ← s.dropCandidate
  some ({ s with keyAllowed := !s.inFlow }.emit .key 1)

/-- Reads the sign of a value. What may be a key before it turns out to be one. -/
def value (s : Scanner) : Option Scanner :=
  match s.candidate with
  | some candidate =>
    let s := { s with tokens := s.tokens.insertIdx candidate.position .key }
    let s := s.openBlock candidate.start.column candidate.position .blockMappingStart
    some ({ s.setCandidate none with keyAllowed := false }.emit .value 1)
  | none =>
    if !s.inFlow && !s.keyAllowed then none
    else
      let s := s.openBlock s.cursor.column s.tokens.length .blockMappingStart
      some ({ s with keyAllowed := !s.inFlow }.emit .value 1)

/-- The state behind a token that may be a key. -/
def word (s : Scanner) (read : Cursor → Option (Token × Cursor)) : Option Scanner := do
  let s ← s.saveCandidate
  let (token, cursor) ← read s.cursor
  some { s with tokens := s.tokens ++ [token], cursor, keyAllowed := false }

/-- Reads a quoted scalar. -/
def quoted (s : Scanner) (mark : Char) : Option Scanner :=
  s.word fun c => (takeQuoted mark c).map fun (text, c) => (.scalar .quoted text, c)

/-- Reads a plain scalar. -/
def plain (s : Scanner) : Option Scanner := do
  let s ← s.saveCandidate
  let indent := match s.indents with
    | [] => 0
    | indent :: _ => indent + 1
  let (text, broken, cursor) ← takePlain s.inFlow indent s.cursor
  some { s with tokens := s.tokens ++ [.scalar .plain text], cursor, keyAllowed := broken }

/-- Reads a block scalar. -/
def block (s : Scanner) (style : Style) : Option Scanner := do
  let s ← s.dropCandidate
  let (text, cursor) ← takeBlock (style == .literal) s.indents.head? s.cursor
  some { s with tokens := s.tokens ++ [.scalar style text], cursor, keyAllowed := true }

/-- Whether a plain scalar starts here. -/
def startsPlain (s : Scanner) : Bool :=
  let c := s.cursor
  let isIndicator (char : Char) := "-?:,[]\x7b\x7d#&*!|>'\"%@\x60".toList.contains char
  !(c.seesGap 0 || c.sees 0 isIndicator true) ||
    (c.startsWith '-' && !c.sees 1 isBlank false) ||
    (!s.inFlow && (c.startsWith '?' || c.startsWith ':') && !c.seesGap 1)

/-- Reads the token that starts with the given character. -/
def token (s : Scanner) (char : Char) : Option Scanner :=
  let c := s.cursor
  let isSign := s.inFlow || c.seesGap 1
  if c.column == 0 && char == '%' then s.directive
  else if c.atDocumentMark then
    s.documentMark (if char == '-' then .documentStart else .documentEnd)
  else if char == '[' then s.openFlow .flowSequenceStart
  else if char == '\x7b' then s.openFlow .flowMappingStart
  else if char == ']' then s.closeFlow .flowSequenceEnd
  else if char == '\x7d' then s.closeFlow .flowMappingEnd
  else if char == ',' then s.comma
  else if char == '-' && c.seesGap 1 then s.entry
  else if char == '?' && isSign then s.key
  else if char == ':' && isSign then s.value
  else if char == '*' then
    s.word fun c => (takeName (c.skip 1)).map fun (name, c) => (.alias name, c)
  else if char == '&' then
    s.word fun c => (takeName (c.skip 1)).map fun (name, c) => (.anchor name, c)
  else if char == '!' then s.word (takeTag s.inFlow)
  else if char == '|' && !s.inFlow then s.block .literal
  else if char == '>' && !s.inFlow then s.block .folded
  else if char == '\'' || char == '"' then s.quoted char
  else if s.startsPlain then s.plain
  else none

/-- The tokens that have been read and those of the text that is left. The `fuel` is greater than
the length of the text. -/
def run : (fuel : Nat) → Scanner → Option (List Token)
  | 0, _ => none
  | fuel + 1, s => do
    let s ← s.toToken.dropStale
    let s := s.closeBlocks (some s.cursor.column)
    match s.cursor.next? with
    | some char => run fuel (← s.token char)
    | none => (s.closeBlocks none).dropCandidate.map (·.tokens)

end Scanner

/-- The tokens of a text. -/
def tokens? (text : List Char) : Option (List Token) :=
  if text.all isPrintable then Scanner.run (text.length + 1) { cursor := { rest := text } }
  else none

end HttpAudit.Yaml
