import HttpAudit.Yaml.Scalar
import HttpAudit.Yaml.Scanner

/-!
# Documents that are tables of scalars

A document whose only node is a mapping, whose keys and values are all scalars. Any other nesting
is refused. A document that is empty, or an empty scalar, is a mapping without entries.

## Main definitions

* `HttpAudit.Yaml.entries?` — the entries of the only document in a text.
-/

namespace HttpAudit.Yaml

/-- What is known in a document. -/
structure Context where
  /-- The tags that handles stand for, as far as they are written in full. -/
  handles : List (List Char × List UInt8) := []
  /-- The scalars that have names. A later one hides an earlier one of the same name. -/
  named : List (List Char × Scalar) := []

namespace Context

/-- The handles that every document knows. -/
def commonHandles : List (List Char × List UInt8) :=
  [(['!'], Text.Utf8.encode ['!']), (['!', '!'], coreTag)]

/-- The tag that a handle and a suffix make up. -/
def tag? (context : Context) (handle : List Char) (suffix : List UInt8) : Option (List UInt8) :=
  if handle.isEmpty then some suffix
  else ((context.handles ++ commonHandles).lookup handle).map (· ++ suffix)

/-- The context in which a scalar has got a name. -/
def addName (context : Context) (name : Option (List Char)) (scalar : Scalar) : Context :=
  match name with
  | some name => { context with named := (name, scalar) :: context.named }
  | none => context

end Context

/-- Reads the directives of a document, of which no two may be about the same. -/
def takeDirectives (version : Bool) (context : Context) :
    List Token → Option (Bool × Context × List Token)
  | .version major minor :: rest =>
    if version || major != 1 || (minor != 1 && minor != 2) then none
    else takeDirectives true context rest
  | .handle name bytes :: rest =>
    if (context.handles.lookup name).isSome then none
    else takeDirectives version { context with handles := (name, bytes) :: context.handles } rest
  | rest => some (version || !context.handles.isEmpty, context, rest)

/-- Reads the name and the tag of a node, which may come in any order. -/
def takeProperties (context : Context) :
    List Token → Option (Option (List Char) × Option (List UInt8) × List Token)
  | .anchor name :: .tag handle suffix :: rest => do
    some (some name, some (← context.tag? handle suffix), rest)
  | .anchor name :: rest => some (some name, none, rest)
  | .tag handle suffix :: .anchor name :: rest => do
    some (some name, some (← context.tag? handle suffix), rest)
  | .tag handle suffix :: rest => do some (none, some (← context.tag? handle suffix), rest)
  | rest => some (none, none, rest)

/-- Whether a token starts a sequence or a mapping. -/
def startsCollection : Token → Bool
  | .blockSequenceStart | .blockMappingStart | .flowSequenceStart | .flowMappingStart
  | .blockEntry => true
  | _ => false

/-- The tag that a scalar keeps: the one that only says it is no plain scalar is dropped. -/
def keptTag (tag : Option (List UInt8)) : Option (List UInt8) :=
  if tag == some (Text.Utf8.encode ['!']) then none else tag

/-- Reads a scalar, or the name of one. Behind a name or a tag it may be missing. -/
def takeScalar (context : Context) (tokens : List Token) :
    Option (Scalar × Context × List Token) :=
  match tokens with
  | .alias name :: rest => (context.named.lookup name).map fun scalar => (scalar, context, rest)
  | tokens => do
    let (name, tag, rest) ← takeProperties context tokens
    match rest with
    | .scalar style text :: rest =>
      let scalar := ⟨keptTag tag, style, text⟩
      some (scalar, context.addName name scalar, rest)
    | rest =>
      if (name.isNone && tag.isNone) || (rest.head?.any startsCollection) then none
      else
        let scalar : Scalar := { tag }
        some (scalar, context.addName name scalar, rest)

/-- Reads a scalar that may be missing before a token which ends it. -/
def takeScalarBefore (ends : Token → Bool) (context : Context) (tokens : List Token) :
    Option (Scalar × Context × List Token) :=
  match tokens with
  | token :: _ => if ends token then some ({}, context, tokens) else takeScalar context tokens
  | [] => none

/-- Reads a value behind its sign. Without the sign it is missing. -/
def takeValue (ends : Token → Bool) (context : Context) (tokens : List Token) :
    Option (Scalar × Context × List Token) :=
  match tokens with
  | .value :: rest => takeScalarBefore ends context rest
  | tokens => some ({}, context, tokens)

/-- Whether a token ends a key or value in a block. -/
def endsInBlock : Token → Bool
  | .key | .value | .blockEnd => true
  | _ => false

/-- Whether a token ends a key in braces. -/
def endsFlowKey : Token → Bool
  | .value | .flowEntry | .flowMappingEnd => true
  | _ => false

/-- Whether a token ends a value in braces. -/
def endsFlowValue : Token → Bool
  | .flowEntry | .flowMappingEnd => true
  | _ => false

/-- The entries of a mapping, and the tokens behind it. -/
abbrev Entries := List (Scalar × Scalar)

/-- Reads the entries of a mapping with one entry a line. The `fuel` is greater than the number of
tokens. -/
def takeBlockEntries : (fuel : Nat) → Context → List Token → Option (Entries × List Token)
  | 0, _, _ => none
  | fuel + 1, context, tokens =>
    match tokens with
    | .blockEnd :: rest => some ([], rest)
    | .key :: rest => do
      let (key, context, rest) ← takeScalarBefore endsInBlock context rest
      let (value, context, rest) ← takeValue endsInBlock context rest
      let (entries, rest) ← takeBlockEntries fuel context rest
      some ((key, value) :: entries, rest)
    | _ => none

/-- The tokens behind the comma before an entry, which the first entry does not have. -/
def dropComma? (isFirst : Bool) (tokens : List Token) : Option (List Token) :=
  match isFirst, tokens with
  | true, tokens => some tokens
  | false, .flowEntry :: rest => some rest
  | false, _ => none

/-- Reads the entries of a mapping in braces. The `fuel` is greater than the number of tokens. -/
def takeFlowEntries : (fuel : Nat) → (isFirst : Bool) → Context → List Token →
    Option (Entries × List Token)
  | 0, _, _, _ => none
  | _, _, _, .flowMappingEnd :: rest => some ([], rest)
  | fuel + 1, isFirst, context, tokens => do
    match ← dropComma? isFirst tokens with
    | .flowMappingEnd :: rest => some ([], rest)
    | .key :: rest =>
      let (key, context, rest) ← takeScalarBefore endsFlowKey context rest
      let (value, context, rest) ← takeValue endsFlowValue context rest
      let (entries, rest) ← takeFlowEntries fuel false context rest
      some ((key, value) :: entries, rest)
    | tokens =>
      let (key, context, rest) ← takeScalar context tokens
      let (entries, rest) ← takeFlowEntries fuel false context rest
      some ((key, {}) :: entries, rest)

/-- Reads the mapping that is the only node of a document. -/
def takeRoot (context : Context) (tokens : List Token) : Option (Entries × List Token) := do
  match (← takeProperties context tokens).2.2 with
  | .blockMappingStart :: rest => takeBlockEntries (rest.length + 1) context rest
  | .flowMappingStart :: rest => takeFlowEntries (rest.length + 1) true context rest
  | _ =>
    let (scalar, _, rest) ← takeScalar context tokens
    if scalar.text.isEmpty then some ([], rest) else none

/-- Whether a token ends a document, or its content. -/
def endsDocument : Token → Bool
  | .version .. | .handle .. | .documentStart | .documentEnd => true
  | _ => false

/-- Reads the only document. -/
def takeDocument (tokens : List Token) : Option (Entries × List Token) := do
  let (hasDirectives, context, rest) ← takeDirectives false {} tokens
  match rest with
  | .documentStart :: rest =>
    match rest with
    | [] => some ([], [])
    | token :: _ => if endsDocument token then some ([], rest) else takeRoot context rest
  | [] => if hasDirectives then none else some ([], [])
  | rest => if hasDirectives then none else takeRoot context rest

/-- The entries of the only document in a text. -/
def entries? (text : List Char) : Option Entries := do
  let (entries, rest) ← takeDocument (← tokens? text)
  if rest.all (· == .documentEnd) then some entries else none

end HttpAudit.Yaml
