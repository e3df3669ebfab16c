import HttpAudit.Command.Usage

/-!
# Options on a command line

Options are words that start with a hyphen, or with two. A word with one hyphen holds any number of
short options, the last of which may be followed by its value. A value may also stand behind an
equals sign, or in the next word.

## Main definitions

* `HttpAudit.OptionSpec` — an option that a command knows.
* `HttpAudit.Given` — the options that have been read.
* `HttpAudit.Given.readLong`, `HttpAudit.Given.readShorts` — read the options in a word.
-/

namespace HttpAudit

/-- What an option is for. -/
inductive OptionKind where
  /-- To say that something is so. -/
  | flag
  /-- To give a text. -/
  | text
  /-- To name a file. -/
  | path
  /-- To ask for help. -/
  | help
  /-- To ask for the version of the program. -/
  | version
  deriving DecidableEq, Repr

/-- Whether an option has a value. -/
def OptionKind.takesValue : OptionKind → Bool
  | text | path => true
  | flag | help | version => false

/-- An option that a command knows. -/
structure OptionSpec where
  /-- Its long name. -/
  long : String
  /-- Its short name. -/
  short : Option Char
  /-- What it is for. -/
  kind : OptionKind
  deriving DecidableEq, Repr

/-- The options that have been read. -/
structure Given where
  /-- The options with their values, by their long names. That of a flag is empty. -/
  values : List (String × String) := []
  /-- The last option, as long as it may still turn out to be wrong, with its value. -/
  pending : Option (OptionSpec × Option String) := none
  deriving DecidableEq, Repr

namespace Given

/-- The value of an option. -/
def value? (g : Given) (long : String) : Option String := g.values.lookup long

/-- Whether an option is given. -/
def has (g : Given) (long : String) : Bool := (g.value? long).isSome

/-- Whether the next word is the value of an option. -/
def awaitsValue (g : Given) : Bool :=
  match g.pending with
  | some (_, none) => true
  | _ => false

/-- The options with one more, which must not be among them. A path must not be empty. -/
def add (g : Given) (spec : OptionSpec) (value : String) : Except UsageError Given :=
  if g.has spec.long then .error .repeatedOption
  else if spec.kind == .path && value.isEmpty then .error .invalidValue
  else .ok { g with values := g.values ++ [(spec.long, value)] }

/-- The options, the last of which has turned out to be right. -/
def settle (g : Given) : Except UsageError Given :=
  match g.pending with
  | none => .ok g
  | some (_, none) => .error .invalidValue
  | some (spec, some value) => { g with pending := none }.add spec value

/-- The options with one more that takes no value. -/
def addPlain (g : Given) (spec : OptionSpec) : Except UsageError Given := do
  let g ← g.settle
  match spec.kind with
  | .help => .error .help
  | .version => .error .version
  | _ => g.add spec ""

/-- The options with one more that takes a value, which may come in the next word. -/
def addValued (g : Given) (spec : OptionSpec) (value : Option String) :
    Except UsageError Given := do
  let g ← g.settle
  match value with
  | some value => g.add spec value
  | none => .ok { g with pending := some (spec, none) }

/-- The options with the value of the last one. -/
def giveValue (g : Given) (value : String) : Given :=
  { g with pending := g.pending.map fun (spec, _) => (spec, some value) }

/-- Reads a long option, with what stands behind its equals sign. -/
def readLong (specs : List OptionSpec) (g : Given) (long : String) (value : Option String) :
    Except UsageError Given :=
  match specs.find? (·.long == long) with
  | none => .error .unknownArgument
  | some spec =>
    if spec.kind.takesValue then g.addValued spec value
    else if value.isSome then .error .needlessValue
    else g.addPlain spec

/-- The value of a short option that stands behind it in the same word, if there is one. -/
def attachedValue : List Char → Option String
  | [] => none
  | '=' :: value => some (.ofList value)
  | value => some (.ofList value)

/-- Reads the short options of a word. -/
def readShorts (specs : List OptionSpec) (g : Given) : List Char → Except UsageError Given
  | [] => .ok g
  | c :: rest =>
    match specs.find? (·.short == some c) with
    | none => .error .unknownArgument
    | some spec =>
      if spec.kind.takesValue then g.addValued spec (attachedValue rest)
      else
        match g.addPlain spec with
        | .ok g => readShorts specs g rest
        | .error error => .error error

end Given

end HttpAudit
