import HttpAudit.Text.Property

/-!
# Quoted texts

A text between quotation marks, for people to read: characters that cannot be seen, or that would
attach themselves to the one before, are named by their numbers.

## Main definitions

* `HttpAudit.Text.Quoted.isVisible` — whether a character is shown as it is.
* `HttpAudit.Text.quoted` — the quoted form of a text.
-/

namespace HttpAudit.Text

namespace Quoted

/-- The hexadecimal digits of a number, without leading zeros. -/
def hexDigits (n : Nat) : List Char := Nat.toDigits 16 n

/-- Whether a character is shown as it is. -/
def isVisible (c : Char) : Bool :=
  c == ' ' ||
    (!(Category.separators ++ Category.others).contains (Category.ofCode c.toNat) &&
      !Property.isGraphemeExtend c.toNat)

/-- How a character is written between quotation marks. -/
def writeChar (c : Char) : List Char :=
  if c == '"' || c == '\\' then ['\\', c]
  else if c == '\t' then ['\\', 't']
  else if c == '\n' then ['\\', 'n']
  else if c == '\r' then ['\\', 'r']
  else if c.toNat == 0 then ['\\', '0']
  else if isVisible c then [c]
  else ['\\', 'u', '\x7b'] ++ hexDigits c.toNat ++ ['\x7d']

end Quoted

/-- The quoted form of a text. -/
def quoted (s : String) : String :=
  .ofList (['"'] ++ s.toList.flatMap Quoted.writeChar ++ ['"'])

end HttpAudit.Text
