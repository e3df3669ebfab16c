import HttpAudit.Policy.Include
import HttpAudit.Rule.Error
import HttpAudit.Text.Utf8

/-!
# Default rules

The rules in force where none are given, and the text of a policy before its canned parts are
included.

## Main definitions

* `HttpAudit.DefaultRules` — the text of the default rules.
* `HttpAudit.resolveRules` — the rules that a policy is given as, with the default rules included.
-/

namespace HttpAudit

/-- The contents of files by their paths. -/
abbrev Files := String → Option (List UInt8)

/-- The text of a file, if there is one and it is valid. -/
def Files.text? (files : Files) (path : String) : Option String :=
  ((files path).bind Text.Utf8.decode?).map String.ofList

/-- The default rules. -/
structure DefaultRules where
  /-- The text of the rules. -/
  text : String
  deriving DecidableEq, Repr

namespace DefaultRules

/-- The strict rules. -/
def strict : DefaultRules := ⟨Canned.strict.text⟩

/-- The directive to include the default rules. -/
def directive : List Char := Include.directive "default"

/-- The default rules with the given text, in which lines that would include the default rules
are dropped. -/
def set (_ : DefaultRules) (text : String) : DefaultRules :=
  ⟨.ofList (Include.replace directive [] text.toList)⟩

/-- The default rules set back to the strict ones. -/
def reset (defaults : DefaultRules) : DefaultRules := defaults.set Canned.strict.text

end DefaultRules

/-- The start of rules that name a file. -/
def filePrefix : List Char := "file://".toList

/-- The file that rules name, if they name one. -/
def rulesPath? (rules : String) : Option String :=
  let s := rules.toList
  if filePrefix.isPrefixOf s then some (.ofList (Text.trim (s.drop filePrefix.length))) else none

/-- The text of the rules that a policy is given as: the contents of a file, or the text itself,
or nothing. -/
def loadRules (files : Files) (rules : Option String) : Except RuleError String :=
  match rules with
  | none => .ok ""
  | some rules =>
    match rulesPath? rules with
    | none => .ok rules
    | some path =>
      match files.text? path with
      | some text => .ok text
      | none => .error (.rulesLoad path)

/-- The rules that a policy is given as, with the default rules included; these take the place of
rules that are blank. -/
def resolveRules (files : Files) (defaults : DefaultRules) (rules : Option String) :
    Except RuleError String := do
  let text ← loadRules files rules
  if (Text.trimLeft text.toList).isEmpty then .ok defaults.text
  else
    .ok (.ofList (Include.replace DefaultRules.directive defaults.text.toList text.toList))

end HttpAudit
