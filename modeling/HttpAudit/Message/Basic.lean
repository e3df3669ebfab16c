import HttpAudit.Json.Parser

/-!
# Messages

A message describes one exchange of a request and a response by fields with names. It travels as
a JSON array of pairs of texts.

## Main definitions

* `HttpAudit.Message` — the fields of a message, in order.
* `HttpAudit.Message.toJson` — the text that travels.
* `HttpAudit.Message.ofJson?` — the message with a given text.
-/

namespace HttpAudit

/-- A message. -/
structure Message where
  /-- The names and values of its fields, in order. A name may occur several times. -/
  fields : List (String × String)
  deriving DecidableEq, Repr

namespace Message

/-- The message without fields. -/
def empty : Message := ⟨[]⟩

/-- The message with another field at its end. -/
def push (m : Message) (name value : String) : Message :=
  ⟨m.fields ++ [(name, value)]⟩

/-- The message with more fields at its end. -/
def append (m : Message) (fields : List (String × String)) : Message :=
  ⟨m.fields ++ fields⟩

/-- The number of fields. -/
def length (m : Message) : Nat := m.fields.length

/-- Whether the message has no fields. -/
def isEmpty (m : Message) : Bool := m.fields.isEmpty

/-- The value of the first field with the given name. -/
def get? (m : Message) (name : String) : Option String := m.fields.lookup name

/-- The names of the fields, in order. -/
def names (m : Message) : List String := m.fields.map (·.1)

/-- The fields that pass a test, in order. -/
def retain (m : Message) (keep : String × String → Bool) : Message :=
  ⟨m.fields.filter keep⟩

/-- The message as a JSON value. -/
def json (m : Message) : Json :=
  .array (m.fields.map fun (name, value) => .array [.string name, .string value])

/-- The text of the message. -/
def toJson (m : Message) : String := m.json.render

/-- The field that a JSON value denotes. -/
def fieldOfJson? : Json → Option (String × String)
  | .array [.string name, .string value] => some (name, value)
  | _ => none

/-- The fields that JSON values denote. -/
def fieldsOfJson? : List Json → Option (List (String × String))
  | [] => some []
  | item :: rest => do
    let field ← fieldOfJson? item
    let fields ← fieldsOfJson? rest
    some (field :: fields)

/-- The message with the given text: an array of pairs of texts, and nothing else. -/
def ofJson? (text : String) : Option Message :=
  match Json.parse? text.toList with
  | some (.array items) => (fieldsOfJson? items).map Message.mk
  | _ => none

end Message

end HttpAudit
