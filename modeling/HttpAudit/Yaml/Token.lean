/-!
# Tokens

## Main definitions

* `HttpAudit.Yaml.Style` — how a scalar is written.
* `HttpAudit.Yaml.Token` — the parts that a document is made of.
-/

namespace HttpAudit.Yaml

/-- How a scalar is written. -/
inductive Style where
  /-- Without marks. -/
  | plain
  /-- Between quotation marks. -/
  | quoted
  /-- As lines that are kept. -/
  | literal
  /-- As lines that are folded. -/
  | folded
  deriving DecidableEq, Repr

/-- The parts that a document is made of. -/
inductive Token where
  /-- The version that a document asks for. -/
  | version (major minor : Nat)
  /-- A handle for the tags of a document. -/
  | handle (name : List Char) (bytes : List UInt8)
  /-- The mark that a document starts. -/
  | documentStart
  /-- The mark that a document ends. -/
  | documentEnd
  /-- A sequence starts, one entry a line. -/
  | blockSequenceStart
  /-- A mapping starts, one entry a line. -/
  | blockMappingStart
  /-- Such a sequence or mapping ends. -/
  | blockEnd
  /-- A sequence in brackets starts. -/
  | flowSequenceStart
  /-- A sequence in brackets ends. -/
  | flowSequenceEnd
  /-- A mapping in braces starts. -/
  | flowMappingStart
  /-- A mapping in braces ends. -/
  | flowMappingEnd
  /-- An entry of a sequence starts, one a line. -/
  | blockEntry
  /-- A comma. -/
  | flowEntry
  /-- A key follows. -/
  | key
  /-- A value follows. -/
  | value
  /-- A node that has been named before. -/
  | alias (name : List Char)
  /-- The name of the node that follows. -/
  | anchor (name : List Char)
  /-- The tag of the node that follows. -/
  | tag (handle : List Char) (suffix : List UInt8)
  /-- A scalar. -/
  | scalar (style : Style) (text : List Char)
  deriving DecidableEq, Repr

end HttpAudit.Yaml
