import HttpAudit.Command.Options

/-!
# Command lines

A command line names one of three commands, with options before and behind its name.

## Main definitions

* `HttpAudit.Command` — a command with its options.
* `HttpAudit.Invocation` — a command line.
* `HttpAudit.Invocation.parse` — reads a command line.
-/

namespace HttpAudit

/-- The options of the command that delivers a message. -/
structure SubmitOptions where
  /-- The URL that is used by default. -/
  url : Option String := none
  /-- The configuration file. -/
  config : Option String := none
  /-- The rules, or the file that they are in. -/
  rules : Option String := none
  /-- The file that the message is in. -/
  input : Option String := none
  /-- The name of the machine. -/
  host : Option String := none
  /-- Whether all loggers are disabled. -/
  disableAll : Bool := false
  deriving DecidableEq, Repr

/-- A command with its options. -/
inductive Command where
  /-- Compiles rules and tells what they are. -/
  | check (rules : Option String)
  /-- Applies rules to a message. -/
  | apply (rules input : Option String)
  /-- Delivers a message. -/
  | submit (options : SubmitOptions)
  deriving DecidableEq, Repr

/-- How much is written to the log. -/
inductive LogLevel where
  /-- Nothing. -/
  | off
  /-- Everything. -/
  | debug
  deriving DecidableEq, Repr

/-- A command line. -/
structure Invocation where
  /-- Whether nothing is to be written to the log. -/
  quiet : Bool
  /-- Whether everything is to be written to the log. -/
  debug : Bool
  /-- The command. -/
  command : Command
  deriving DecidableEq, Repr

/-- The environment variables of the program. -/
abbrev Environment := String → Option String

/-- How much is written to the log, if the command line says so. To be quiet wins. -/
def Invocation.level? (invocation : Invocation) : Option LogLevel :=
  if invocation.quiet then some .off else if invocation.debug then some .debug else none

namespace Command

/-- The options that are known everywhere. -/
def commonOptions : List OptionSpec :=
  [⟨"quiet", some 'q', .flag⟩, ⟨"debug", some 'd', .flag⟩, ⟨"help", some 'h', .help⟩]

/-- The option that gives rules. -/
def rulesOption : OptionSpec := ⟨"rules", some 'r', .text⟩

/-- The option that names the file of a message. -/
def inputOption : OptionSpec := ⟨"input", some 'i', .path⟩

/-- The names of the commands, each with its own options. -/
def known : List (String × List OptionSpec) :=
  [("check", [rulesOption]),
   ("apply", [rulesOption, inputOption]),
   ("submit",
    [⟨"url", none, .text⟩, ⟨"config", some 'c', .path⟩, rulesOption, inputOption,
     ⟨"host", none, .text⟩, ⟨"disable-all", none, .flag⟩])]

/-- The command that asks for help about the others. -/
def helpName : String := "help"

/-- Whether there is a command of the given name. -/
def isName (name : String) : Bool := name == helpName || (known.lookup name).isSome

/-- The command that a name and options make up. A URL and the name of the machine may also come
from the environment. -/
def ofOptions (environment : Environment) (name : String) (g : Given) : Command :=
  let rules := g.value? "rules"
  let input := g.value? "input"
  if name == "check" then check rules
  else if name == "apply" then apply rules input
  else submit {
    url := g.value? "url" <|> environment "USAGE_LOGGERS_URL"
    config := g.value? "config"
    rules
    input
    host := g.value? "host" <|> environment "HOSTNAME"
    disableAll := g.has "disable-all" }

end Command

namespace Invocation

/-- What is wrong with a word that is neither an option nor the name of a command, at a place where
the name of a command is missing or not. -/
def strayError (expectsName : Bool) : UsageError :=
  if expectsName then .unknownCommand else .unknownArgument

/-- What is wrong with a word behind two hyphens. -/
def trailingError (expectsName : Bool) (word : String) : UsageError :=
  if expectsName && Command.isName word then .unknownArgument else strayError expectsName

/-- Reads the words up to the name of a command, if one is expected, or to the end. The name is
returned with the words behind it. -/
def readWords (specs : List OptionSpec) (expectsName : Bool) (g : Given) :
    List String → Except UsageError (Given × Option (String × List String))
  | [] => do
    let g ← g.settle
    return (g, none)
  | word :: rest => do
    if !g.awaitsValue && expectsName && Command.isName word then return (g, some (word, rest))
    match word.toList with
    | ['-', '-'] =>
      match rest with
      | [] =>
        let g ← g.settle
        return (g, none)
      | next :: _ => .error (trailingError expectsName next)
    | '-' :: '-' :: option =>
      let long := String.ofList (option.takeWhile (· != '='))
      let value := match option.dropWhile (· != '=') with
        | _ :: value => some (String.ofList value)
        | [] => none
      let g ← g.readLong specs long value
      readWords specs expectsName g rest
    | '-' :: c :: shorts =>
      let g ← g.readShorts specs (c :: shorts)
      readWords specs expectsName g rest
    | _ =>
      if g.awaitsValue then readWords specs expectsName (g.giveValue word) rest
      else .error (strayError expectsName)

/-- What comes of asking for help about the commands with the given names. -/
def helpError : List String → UsageError
  | [] => .help
  | [name] => if Command.isName name then .help else .unknownCommand
  | _ => .unknownCommand

/-- Reads a command line. -/
def parse (environment : Environment) (words : List String) : Except UsageError Invocation := do
  let rootOptions := Command.commonOptions ++ [⟨"version", some 'V', .version⟩]
  let (root, found) ← readWords rootOptions true {} words
  match found with
  | none => .error (if root.values.isEmpty then .empty else .missingCommand)
  | some (name, rest) =>
    match Command.known.lookup name with
    | none => .error (helpError rest)
    | some options =>
      let (g, _) ← readWords (Command.commonOptions ++ options) false {} rest
      return {
        quiet := root.has "quiet" || g.has "quiet"
        debug := root.has "debug" || g.has "debug"
        command := .ofOptions environment name g }

end Invocation

end HttpAudit
