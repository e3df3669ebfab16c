import HttpAudit.Pattern.CharClass
import HttpAudit.Text.Age
import HttpAudit.Text.Blank
import HttpAudit.Text.Property
import HttpAudit.Text.Script
import HttpAudit.Text.Segment

/-!
# Classes named by a property

The class of characters that a pattern names as `\p` with a property: a general category, a
script, a binary property, or a property with a value.

## Main definitions

* `HttpAudit.Pattern.PropertyQuery` — the property that a pattern asks for.
* `HttpAudit.Pattern.PropertyQuery.class?` — the class with this property.
* `HttpAudit.Pattern.ShorthandClass` — the digits, blanks and parts of words.

## Design

A name without a value is first looked up among the binary properties, then among the general
categories, then among the scripts. Names are loose: case, blanks, hyphens, underscores and a
leading `is` do not count.
-/

namespace HttpAudit.Pattern

/-- The property that a pattern asks for. -/
inductive PropertyQuery where
  /-- A property, category or script, named alone. -/
  | name (name : List Char)
  /-- A property with a value. -/
  | value (property value : List Char)
  deriving DecidableEq, Repr

namespace PropertyQuery

/-- A name in the loose form. The name `isc` keeps its first letters, as it is an abbreviation of
its own. -/
def loosen (name : List Char) : String :=
  let lower := name.map fun c => if 'A' ≤ c && c ≤ 'Z' then Char.ofNat (c.toNat + 32) else c
  let isPrefixed := lower.take 2 == ['i', 's']
  let kept := (if isPrefixed then lower.drop 2 else lower).filter fun c =>
    c.toNat < 128 && c != ' ' && c != '_' && c != '-'
  if isPrefixed && kept == ['c'] then "isc" else String.ofList kept

/-- The categories with the given loose name. -/
def categories? : String → Option (List Text.Category)
  | "lu" | "uppercaseletter" => some [.uppercaseLetter]
  | "ll" | "lowercaseletter" => some [.lowercaseLetter]
  | "lt" | "titlecaseletter" => some [.titlecaseLetter]
  | "lc" | "casedletter" => some Text.Category.casedLetters
  | "lm" | "modifierletter" => some [.modifierLetter]
  | "lo" | "otherletter" => some [.otherLetter]
  | "l" | "letter" => some Text.Category.letters
  | "mn" | "nonspacingmark" => some [.nonspacingMark]
  | "mc" | "spacingmark" => some [.spacingMark]
  | "me" | "enclosingmark" => some [.enclosingMark]
  | "m" | "mark" | "combiningmark" => some Text.Category.marks
  | "nd" | "decimalnumber" | "digit" => some [.decimalNumber]
  | "nl" | "letternumber" => some [.letterNumber]
  | "no" | "othernumber" => some [.otherNumber]
  | "n" | "number" => some Text.Category.numbers
  | "pc" | "connectorpunctuation" => some [.connectorPunctuation]
  | "pd" | "dashpunctuation" => some [.dashPunctuation]
  | "ps" | "openpunctuation" => some [.openPunctuation]
  | "pe" | "closepunctuation" => some [.closePunctuation]
  | "pi" | "initialpunctuation" => some [.initialPunctuation]
  | "pf" | "finalpunctuation" => some [.finalPunctuation]
  | "po" | "otherpunctuation" => some [.otherPunctuation]
  | "p" | "punctuation" | "punct" => some Text.Category.punctuation
  | "sm" | "mathsymbol" => some [.mathSymbol]
  | "sc" | "currencysymbol" => some [.currencySymbol]
  | "sk" | "modifiersymbol" => some [.modifierSymbol]
  | "so" | "othersymbol" => some [.otherSymbol]
  | "s" | "symbol" => some Text.Category.symbols
  | "zs" | "spaceseparator" => some [.spaceSeparator]
  | "zl" | "lineseparator" => some [.lineSeparator]
  | "zp" | "paragraphseparator" => some [.paragraphSeparator]
  | "z" | "separator" => some Text.Category.separators
  | "cc" | "control" | "cntrl" => some [.control]
  | "cf" | "format" => some [.format]
  | "cs" | "surrogate" => some [.surrogate]
  | "co" | "privateuse" => some [.privateUse]
  | "cn" | "unassigned" => some [.unassigned]
  | "c" | "other" => some Text.Category.others
  | _ => none

/-- A property of code points as a class, with a middling estimate of its runs. -/
def classOf (holds : Nat → Bool) : CharClass :=
  .property 400 holds

/-- The class of a general category, of which there are three more: all code points, the assigned
ones, and ASCII. -/
def categoryClass? (name : String) : Option CharClass :=
  match name with
  | "any" => some .any
  | "ascii" => some (.range 0 127)
  | "assigned" => some (.compl (classOf fun c => Text.Category.ofCode c == .unassigned))
  | _ => (categories? name).map fun cs => classOf (Text.Property.inCategories cs)

/-- The class of a script. -/
def scriptClass? (name : String) : Option CharClass :=
  (Text.Script.named? name).map fun code => classOf fun c => Text.Script.ofCode c == code

/-- The version with the given loose name, as `6.1`, `v61` or with its numbers joined. -/
def version? (name : String) : Option String :=
  Text.Age.versions.find? fun v => name == v || name == "v" ++ v.replace "." ""

/-- The class with one of the named labels. -/
def labelledClass? (names : List (String × String)) (label : Nat → String) (name : String) :
    Option CharClass :=
  (names.lookup name).map fun wanted => classOf fun c => label c == wanted

/-- The class with the property, if there is such a property. -/
def class? : PropertyQuery → Option CharClass
  | name text =>
    let n := loosen text
    match (if n == "cf" || n == "sc" || n == "lc" then none else Text.Property.find? n) with
    | some holds => some (classOf holds)
    | none => (categoryClass? n).orElse fun _ => scriptClass? n
  | value property text =>
    let v := loosen text
    match loosen property with
    | "gc" | "generalcategory" => categoryClass? v
    | "sc" | "script" => scriptClass? v
    | "scx" | "scriptextensions" =>
      (Text.Script.named? v).map fun code => classOf fun c => (Text.Script.usedBy c).contains code
    | "age" => (version? v).map fun age => classOf (Text.Age.assignedBy age)
    | "gcb" | "graphemeclusterbreak" =>
      labelledClass? Text.Segment.graphemeNames Text.Segment.graphemeClass v
    | "wb" | "wordbreak" => labelledClass? Text.Segment.wordNames Text.Segment.wordClass v
    | "sb" | "sentencebreak" =>
      labelledClass? Text.Segment.sentenceNames Text.Segment.sentenceClass v
    | _ => none

end PropertyQuery

/-- The classes that patterns name by a single letter. -/
inductive ShorthandClass where
  /-- Decimal digits. -/
  | digit
  /-- White space. -/
  | blank
  /-- Parts of words. -/
  | word
  deriving DecidableEq, Repr

namespace ShorthandClass

/-- The characters of the class, in all scripts. -/
def unicode : ShorthandClass → CharClass
  | digit => .property 64 fun c => Text.Category.ofCode c == .decimalNumber
  | blank => .property 10 fun c => Text.isBlank (Char.ofNat c)
  | word => .property 770 Text.Property.isWord

/-- The ASCII characters of the class. -/
def ascii : ShorthandClass → CharClass
  | digit => .range 48 57
  | blank => .unions [.range 9 13, .range 32 32]
  | word => .unions [.range 48 57, .range 65 90, .range 95 95, .range 97 122]

end ShorthandClass

end HttpAudit.Pattern
