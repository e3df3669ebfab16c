import HttpAudit.Pattern.Basic

/-!
# Types of content

## Main definitions

* `HttpAudit.isTextContent` — whether a body of some type is worth keeping as a text.
-/

namespace HttpAudit

/-- The pattern for the types of content that are texts. -/
def textContentPattern : String :=
  "(?i)^(text/(html|plain|xml))|(application/(json|soap|xml|x-www-form-urlencoded))"

/-- Whether a body of the given type is worth keeping as a text. -/
def isTextContent (contentType : Option String) : Bool :=
  match contentType, Pattern.compile? textContentPattern.toList with
  | some s, some p => p.isMatch s.toList
  | _, _ => false

end HttpAudit
