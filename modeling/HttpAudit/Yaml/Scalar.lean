import HttpAudit.Text.Utf8
import HttpAudit.Yaml.Token

/-!
# Scalars and their values

What a scalar stands for depends on how it is written: only plain scalars are numbers, truth values
or nothing, unless a tag asks for it. Any scalar is a text.

## Main definitions

* `HttpAudit.Yaml.Scalar` — a scalar.
* `HttpAudit.Yaml.Scalar.optional?` — its value of some kind, or nothing.
* `HttpAudit.Yaml.Scalar.bool?`, `HttpAudit.Yaml.Scalar.nat?` — its value of a kind.
-/

namespace HttpAudit.Yaml

/-- A scalar. -/
structure Scalar where
  /-- Its tag. -/
  tag : Option (List UInt8) := none
  /-- How it is written. -/
  style : Style := .plain
  /-- Its text. -/
  text : List Char := []
  deriving DecidableEq, Repr

/-- The common start of the tags for the basic kinds of values. -/
def coreTag : List UInt8 := Text.Utf8.encode "tag:yaml.org,2002:".toList

/-- The tag of a basic kind of values. -/
def kindTag (kind : String) : List UInt8 := coreTag ++ Text.Utf8.encode kind.toList

namespace Scalar

/-- Whether the text is a word for nothing. -/
def isNullWord (text : List Char) : Bool :=
  ["null", "Null", "NULL", "~"].contains (String.ofList text)

/-- Whether the scalar stands for nothing. A plain scalar whose tag asks for nothing must be a
word for it. -/
def isNull? (s : Scalar) : Option Bool :=
  if s.style != .plain then some false
  else
    match s.tag with
    | some tag =>
      if tag == kindTag "null" then (if isNullWord s.text then some true else none) else some false
    | none => some (s.text.isEmpty || isNullWord s.text)

/-- The value of the scalar that `read` finds, or nothing. -/
def optional? {α : Type} (read : Scalar → Option α) (s : Scalar) : Option (Option α) :=
  match s.isNull? with
  | some true => some none
  | some false => (read s).map some
  | none => none

/-- Whether the scalar may be a value of the given kind: if it is plain, or has lines that are kept
and the tag of this kind. -/
def mayBe (s : Scalar) (kind : String) : Bool :=
  s.style == .plain || (s.style == .literal && s.tag == some (kindTag kind))

/-- The text of the scalar. -/
def string (s : Scalar) : String := .ofList s.text

/-- The truth value of the scalar. -/
def bool? (s : Scalar) : Option Bool :=
  if !s.mayBe "bool" then none
  else if ["true", "True", "TRUE"].contains s.string then some true
  else if ["false", "False", "FALSE"].contains s.string then some false
  else none

/-- The value of a digit in a base that is at most sixteen. -/
def digit? (base : Nat) (c : Char) : Option Nat :=
  let n :=
    if c.isDigit then c.toNat - '0'.toNat
    else if 'a' ≤ c && c ≤ 'f' then c.toNat - 'a'.toNat + 10
    else if 'A' ≤ c && c ≤ 'F' then c.toNat - 'A'.toNat + 10
    else base
  if n < base then some n else none

/-- The number that digits denote, if there are some and it has 64 bits at most. -/
def digits? (base : Nat) (digits : List Char) : Option Nat := do
  if digits.isEmpty then none
  let n ← digits.foldlM (fun n c => (digit? base c).map (base * n + ·)) 0
  if n < Nat.pow 2 64 then some n else none

/-- The number that a text denotes, without the sign before it. -/
def unsigned? (text : List Char) : Option Nat :=
  match text with
  | '0' :: 'x' :: digits => digits? 16 digits
  | '0' :: 'o' :: digits => digits? 8 digits
  | '0' :: 'b' :: digits => digits? 2 digits
  | '0' :: _ :: _ => none
  | digits => digits? 10 digits

/-- The natural number of the scalar. A decimal number has no leading zeros. -/
def nat? (s : Scalar) : Option Nat :=
  if !s.mayBe "int" then none
  else
    match s.text with
    | '+' :: text => unsigned? text
    | text => unsigned? text

end Scalar

end HttpAudit.Yaml
