import HttpAudit.Text.Utf8
import HttpAudit.Yaml.Quoted
import HttpAudit.Yaml.Token

/-!
# Tags, names and directives

## Main definitions

* `HttpAudit.Yaml.takeName` — reads the name of a node.
* `HttpAudit.Yaml.takeTag` — reads a tag.
* `HttpAudit.Yaml.takeDirective` — reads a directive.
-/

namespace HttpAudit.Yaml

/-- Reads the name of a node behind its sign. -/
def takeName (c : Cursor) : Option (List Char × Cursor) :=
  let (name, c) := c.takeWhile isNameChar
  let ends (char : Char) := ['?', ':', ',', ']', '}', '%', '@', '`'].contains char
  if name.isEmpty then none
  else if c.seesGap 0 || c.sees 0 ends true then some (name, c) else none

/-- The number of bytes of a character, by its first byte. -/
def utf8Width? (b : Nat) : Option Nat :=
  if b < 0x80 then some 1
  else if 0xC0 ≤ b && b < 0xE0 then some 2
  else if 0xE0 ≤ b && b < 0xF0 then some 3
  else if 0xF0 ≤ b && b < 0xF8 then some 4
  else none

/-- Reads `count` escaped bytes. -/
def takeEscapedBytes : (count : Nat) → List Char → Option (List Nat × List Char)
  | 0, s => some ([], s)
  | count + 1, '%' :: a :: b :: rest => do
    let byte ← hexNumber? [a, b]
    let (bytes, rest) ← takeEscapedBytes count rest
    some (byte :: bytes, rest)
  | _, _ => none

/-- Reads a character that is written by its escaped bytes. -/
def takeEscapedChar (c : Cursor) : Option (List UInt8 × Cursor) := do
  let (first, _) ← takeEscapedBytes 1 c.rest
  let width ← utf8Width? (first.headD 0)
  let (bytes, _) ← takeEscapedBytes width c.rest
  if (bytes.drop 1).all fun b => 0x80 ≤ b && b < 0xC0 then
    some (bytes.map UInt8.ofNat, c.skip (3 * width))
  else none

/-- Whether a character may occur in a tag. -/
def isTagChar (verbatim : Bool) (c : Char) : Bool :=
  isNameChar c || ";/?:@&=+$.!~*'()".toList.contains c || (verbatim && [',', '[', ']'].contains c)

/-- Reads the characters of a tag. The `fuel` is at least the length of the text. -/
def takeTagChars (verbatim : Bool) : (fuel : Nat) → Cursor → Option (List UInt8 × Cursor)
  | 0, c => some ([], c)
  | fuel + 1, c =>
    match c.next? with
    | none => some ([], c)
    | some char =>
      if char == '%' then do
        let (bytes, c) ← takeEscapedChar c
        let (more, c) ← takeTagChars verbatim fuel c
        some (bytes ++ more, c)
      else if isTagChar verbatim char then do
        let (more, c) ← takeTagChars verbatim fuel (c.skip 1)
        some (Text.Utf8.encodeChar char ++ more, c)
      else some ([], c)

/-- Reads the characters of a tag, of which there must be some. -/
def takeTagText (verbatim : Bool) (c : Cursor) : Option (List UInt8 × Cursor) := do
  let (bytes, c) ← takeTagChars verbatim c.rest.length c
  if bytes.isEmpty then none else some (bytes, c)

/-- Reads a handle: a name between exclamation marks, the second of which may be missing. -/
def takeHandle (c : Cursor) : Option (List Char × Cursor) :=
  if c.startsWith '!' then
    let (name, c) := (c.skip 1).takeWhile isNameChar
    if c.startsWith '!' then some ('!' :: name ++ ['!'], c.skip 1) else some ('!' :: name, c)
  else none

/-- Reads a tag. A tag without a handle has an empty one. -/
def takeTag (inFlow : Bool) (c : Cursor) : Option (Token × Cursor) := do
  let (token, c) ←
    if (c.skip 1).startsWith '<' then do
      let (suffix, c) ← takeTagText true (c.skip 2)
      if c.startsWith '>' then some (Token.tag [] suffix, c.skip 1) else none
    else do
      let (name, after) ← takeHandle c
      if 1 < name.length && name.getLast? == some '!' then
        let (suffix, after) ← takeTagText false after
        some (Token.tag name suffix, after)
      else
        let (more, after) ← takeTagChars false after.rest.length after
        let suffix := Text.Utf8.encode (name.drop 1) ++ more
        if suffix.isEmpty then some (Token.tag [] (Text.Utf8.encode ['!']), after)
        else some (Token.tag ['!'] suffix, after)
  if c.seesGap 0 || (inFlow && c.startsWith ',') then some (token, c) else none

/-- Reads a number in a version, which has nine digits at most. -/
def takeVersionNumber (c : Cursor) : Option (Nat × Cursor) :=
  let (digits, c) := c.takeWhile Char.isDigit
  if digits.isEmpty || 9 < digits.length then none
  else some (digits.foldl (fun n d => 10 * n + (d.toNat - '0'.toNat)) 0, c)

/-- Reads what a directive with the given name says. -/
def takeDirectiveBody (name : List Char) (c : Cursor) : Option (Token × Cursor) :=
  if name == "YAML".toList then do
    let (major, c) ← takeVersionNumber (c.dropWhile isBlank)
    if !c.startsWith '.' then none
    let (minor, c) ← takeVersionNumber (c.skip 1)
    some (.version major minor, c)
  else if name == "TAG".toList then do
    let (handle, c) ← takeHandle (c.dropWhile isBlank)
    if handle != ['!'] && (handle.length < 2 || handle.getLast? != some '!') then none
    if !c.sees 0 isBlank false then none
    let (bytes, c) ← takeTagText true (c.dropWhile isBlank)
    if c.seesGap 0 then some (.handle handle bytes, c) else none
  else none

/-- Reads a directive, with the line that it stands on. -/
def takeDirective (c : Cursor) : Option (Token × Cursor) := do
  let (name, c) := (c.skip 1).takeWhile isNameChar
  if name.isEmpty || !c.seesGap 0 then none
  let (token, c) ← takeDirectiveBody name c
  let c := c.dropWhile isBlank
  let c := if c.startsWith '#' then c.dropWhile (!isBreak ·) else c
  if c.atLineEnd then some (token, c.takeBreak.2) else none

end HttpAudit.Yaml
