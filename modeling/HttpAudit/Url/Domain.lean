import HttpAudit.Text.Case
import HttpAudit.Text.Direction
import HttpAudit.Text.Property
import HttpAudit.Text.Utf8
import HttpAudit.Url.Address
import HttpAudit.Url.DomainStatus
import HttpAudit.Url.Punycode

/-!
# Hosts

The name of a host is decoded, and its characters are brought into one form; then it must be a
valid name, or an address.

## Main definitions

* `HttpAudit.Url.host?` — the host that a text in a URL denotes.

## Design

Labels in other scripts are checked by the rules for domain names: which characters may occur,
which may come first, and how directions may be mixed.
-/

namespace HttpAudit.Url

/-- The bytes of a text in which escapes by percent signs are decoded. -/
def percentDecode : List UInt8 → List UInt8
  | [] => []
  | [b] => [b]
  | [b, c] => [b, c]
  | b :: c :: d :: rest =>
    if b == 0x25 then
      match hexDigit? (Char.ofNat c.toNat), hexDigit? (Char.ofNat d.toNat) with
      | some high, some low => UInt8.ofNat (16 * high + low) :: percentDecode rest
      | _, _ => b :: percentDecode (c :: d :: rest)
    else b :: percentDecode (c :: d :: rest)

/-- Whether an ASCII character may not occur in a name. -/
def isForbidden (c : Char) : Bool :=
  c.toNat ≤ 32 || c.toNat == 127 || "%#/:<>?@[\\]^|".toList.contains c

/-- Whether a character separates the labels of a name like a dot. -/
def isFullStop (c : Char) : Bool :=
  c == '.' || c.toNat == 0x3002 || c.toNat == 0xFF0E || c.toNat == 0xFF61

/-- A character in the form in which names have it. Digits and letters of full width become ASCII
ones. -/
def normalChar (c : Char) : Char :=
  let n := c.toNat
  if n < 128 then c.toLower
  else if isFullStop c then '.'
  else if 0xFF01 ≤ n && n ≤ 0xFF5E then (Char.ofNat (n - 0xFF01 + 0x21)).toLower
  else if 0x1D7CE ≤ n && n ≤ 0x1D7FF then Char.ofNat ('0'.toNat + (n - 0x1D7CE) % 10)
  else Char.ofNat (Text.Case.fold n)

/-- The characters of a name in their normal form, if all are allowed. -/
def normalize? : List Char → Option (List Char)
  | [] => some []
  | c :: rest =>
    match DomainStatus.ofCode c.toNat with
    | .ignored => normalize? rest
    | .disallowed => none
    | .valid =>
      let d := normalChar c
      if isForbidden d then none else (normalize? rest).map (d :: ·)

/-- Whether a character is written from right to left. -/
def isRightward (c : Char) : Bool :=
  match Text.Direction.ofCode c.toNat with
  | .right | .arabicLetter => true
  | _ => false

/-- Whether a character makes the rules for directions apply to a name. -/
def mixesDirections (c : Char) : Bool :=
  isRightward c || Text.Direction.ofCode c.toNat == .arabicNumber

/-- Whether the directions of a label are in order. -/
def isOrdered (label : List Char) : Bool :=
  let classes := label.map fun c => Text.Direction.ofCode c.toNat
  let body := (classes.reverse.dropWhile (· == .mark)).head?
  let common : List Text.Direction :=
    [.europeanNumber, .europeanSeparator, .commonSeparator, .terminator, .neutral, .boundary, .mark]
  match classes.head? with
  | none => true
  | some .left =>
    classes.all (fun d => d == .left || common.contains d) &&
      (body == some .left || body == some .europeanNumber)
  | some first =>
    (first == .right || first == .arabicLetter) &&
      classes.all (fun d => d == .right || d == .arabicLetter || d == .arabicNumber ||
        common.contains d) &&
      (body == some .right || body == some .arabicLetter || body == some .europeanNumber ||
        body == some .arabicNumber) &&
      !(classes.contains .europeanNumber && classes.contains .arabicNumber)

/-- Whether the characters that join others stand where they may, behind the character
`before`. -/
def joinsRightly (before : Option Char) : List Char → Bool
  | [] => true
  | c :: rest =>
    let afterVirama := match before with
      | some b => Text.Property.graphemeLink.contains b.toNat
      | none => false
    let between := match before, rest.head? with
      | some b, some d => c.toNat == 0x200C &&
        Text.Direction.ofCode b.toNat == .arabicLetter &&
        Text.Direction.ofCode d.toNat == .arabicLetter
      | _, _ => false
    ((c.toNat != 0x200C && c.toNat != 0x200D) || afterVirama || between) &&
      joinsRightly (some c) rest

/-- Whether a label that is not ASCII is valid. -/
def isValidLabel (label : List Char) : Bool :=
  match label with
  | [] => true
  | first :: _ =>
    !Text.Property.inCategories Text.Category.marks first.toNat && joinsRightly none label

/-- The start of a label that encodes one in another script. -/
def encodedStart : List Char := ['x', 'n', '-', '-']

/-- A label in the script that it stands for, if it is valid. -/
def label? (label : List Char) : Option (List Char) :=
  if encodedStart.isPrefixOf label then
    match Punycode.decode? (label.drop 4) with
    | none => none
    | some text =>
      if text.all (fun c => c.toNat < 128) then none
      else if text.all (fun c => DomainStatus.ofCode c.toNat == .valid && normalChar c == c &&
          !isForbidden c && c != '.') && isValidLabel text then some text
      else none
  else if label.all fun c => c.toNat < 128 then some label
  else if isValidLabel label then some label
  else none

/-- The labels of a name in the script that they stand for, if the name is valid. -/
def labels? (name : List Char) : Option (List (List Char)) := do
  let labels ← (dotParts name).mapM label?
  guard (!(labels.any fun label => label.any mixesDirections) || labels.all isOrdered)
  some labels

/-- A host: an address in brackets, an address of four numbers, or a name in its normal form. -/
inductive Host where
  /-- An address of eight pieces. -/
  | address6 (text : List Char)
  /-- An address of four numbers. -/
  | address4 (text : List Char)
  /-- A name. -/
  | name (text : List Char)
  deriving DecidableEq, Repr

/-- The host that a text in a URL denotes. -/
def host? (s : List Char) : Option Host :=
  match s with
  | '[' :: rest =>
    if rest.getLast? == some ']' && isAddress6 rest.dropLast then some (.address6 rest.dropLast)
    else none
  | s => do
    let text ← Text.Utf8.decode? (percentDecode (Text.Utf8.encode s))
    let name ← normalize? text
    let _ ← labels? name
    guard !name.isEmpty
    if endsInNumber name then
      if isAddress4 name then some (.address4 name) else none
    else some (.name name)

end HttpAudit.Url
