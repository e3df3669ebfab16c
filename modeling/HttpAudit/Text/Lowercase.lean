import HttpAudit.Text.Case
import HttpAudit.Text.Property

/-!
# Lower case

The lower-case form of a text by the rules of the Unicode standard that do not depend on a
language. Two characters are special: the dotted capital I becomes two characters, and the form of
a sigma depends on whether it ends a word.

## Main definitions

* `HttpAudit.Text.lowercase` — the lower-case form of a text.
-/

namespace HttpAudit.Text

/-- The capital sigma. -/
def capitalSigma : Char := Char.ofNat 0x3A3

/-- The capital I with a dot. -/
def capitalDottedI : Char := Char.ofNat 0x130

/-- Whether the first character of a text that is not ignored for case has a case. -/
def startsCased (s : List Char) : Bool :=
  match s.dropWhile fun c => Property.isCaseIgnorable c.toNat with
  | c :: _ => Property.isCased c.toNat
  | [] => false

/-- The lower-case form of a sigma between the texts `before`, last character first, and
`after`. -/
def lowerSigma (before after : List Char) : Char :=
  if startsCased before && !startsCased after then Char.ofNat 0x3C2 else Char.ofNat 0x3C3

/-- The lower-case form of a character. -/
def lowerChar (before after : List Char) (c : Char) : List Char :=
  if c.toNat < 128 then [c.toLower]
  else if c == capitalSigma then [lowerSigma before after]
  else if c == capitalDottedI then ['i', Char.ofNat 0x307]
  else [Char.ofNat (Case.lower c.toNat)]

/-- The lower-case form of a text behind the text `before`, which is given last character first. -/
def lowercaseFrom (before : List Char) : List Char → List Char
  | [] => []
  | c :: rest => lowerChar before rest c ++ lowercaseFrom (c :: before) rest

/-- The lower-case form of a text. -/
def lowercase (s : List Char) : List Char := lowercaseFrom [] s

end HttpAudit.Text
