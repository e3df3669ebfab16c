import HttpAudit.Command.Failure
import HttpAudit.Command.Invocation
import HttpAudit.Logger.Basic

/-!
# Carrying out commands

## Main definitions

* `HttpAudit.Surroundings` — what a command finds around it.
* `HttpAudit.Command.run` — carries out a command.
* `HttpAudit.Submission` — what becomes of a message that is to be delivered.
-/

namespace HttpAudit

/-- What a command finds around it. -/
structure Surroundings where
  /-- The files. -/
  files : Files
  /-- The standard input. -/
  stdin : List UInt8
  /-- The environment variables. -/
  environment : Environment
  /-- The current time. -/
  now : String
  /-- The outcome of chance. -/
  draw : Draw
  /-- What becomes of requests. -/
  network : Request → Reply

/-- What becomes of a message that is to be delivered. -/
inductive Submission where
  /-- The logger is disabled. -/
  | disabled
  /-- The logger has done its work and is left in this state. -/
  | finished (logger : Logger)

namespace Submission

/-- What is written about it. -/
def report : Submission → String
  | disabled => "disabled\n"
  | finished logger =>
    "submitted: " ++ toString logger.pipeline.successes ++ "\nfailed: " ++
      toString logger.pipeline.failures ++ "\n"

/-- The requests that were made, with what became of them. -/
def requests : Submission → List (Request × Reply)
  | disabled => []
  | finished logger => logger.pipeline.ended

end Submission

namespace Command

/-- The policy that a command is given, which is the strict one where none is given. -/
def policy (files : Files) (rules : Option String) : Except CommandError Policy :=
  (Policy.resolve files .strict rules).mapError .rules

/-- The text that a command works on: a file, or the standard input. -/
def input (s : Surroundings) : Option String → Except CommandError String
  | some path =>
    match s.files.text? path with
    | some text => .ok text
    | none => .error (.unreadableInput path)
  | none =>
    match Text.Utf8.decode? s.stdin with
    | some text => .ok (.ofList text)
    | none => .error .unreadableStdin

/-- The message that a text holds, with blanks around it or not. -/
def readMessage (text : String) : Except CommandError Message :=
  match Message.ofJson? (.ofList (Text.trim text.toList)) with
  | some m => .ok m
  | none => .error .noMessage

/-- A line about the rules with a verb, if there are some. -/
def verbLine (p : Policy) (verb : Verb) : String :=
  let count := (p.rulesFor verb).length
  if count = 0 then "" else "  " ++ verb.keyword ++ ": " ++ toString count ++ "\n"

/-- What is written about a policy: the number of its rules, and those of each verb, and what it
allows. -/
def summary (p : Policy) : String :=
  let sample := match p.sample with
    | some percent => toString percent ++ "%"
    | none => "none"
  "Compiled " ++ toString p.length ++ " rules.\n" ++ String.join (Verb.all.map (verbLine p)) ++
    "allow_http_url: " ++ toString p.allowHttpUrl ++ "\n" ++
    "skip_compression: " ++ toString p.skipCompression ++ "\n" ++
    "skip_submission: " ++ toString p.skipSubmission ++ "\n" ++
    "sample: " ++ sample ++ "\n"

/-- What is written about a message that a policy has been applied to. -/
def applied (p : Policy) (draw : Draw) (m : Message) : String :=
  match p.apply draw m with
  | some kept => kept.toJson ++ "\n"
  | none => "dropped\n"

/-- The variable of the environment that disables all loggers. -/
def disableVariable : String := "USAGE_LOGGERS_DISABLE"

/-- The options of the logger for a command. What the command says wins over the configuration
file. -/
def loggerOptions (files : Files) (o : SubmitOptions) : Except CommandError LoggerOptions := do
  let configured ← match o.config with
    | some path => ((Config.load files path).map Config.options).mapError .config
    | none => .ok {}
  return { configured with
    rules := o.rules <|> configured.rules
    host := o.host.getD configured.host
    defaultUrl := o.url }

/-- Delivers a message. -/
def submitMessage (s : Surroundings) (o : SubmitOptions) : Except CommandError Submission := do
  let hard := isHardDisabled o.disableAll (s.environment disableVariable)
  let switch := Switch.setHardDisabled {} hard
  let options ← loggerOptions s.files o
  let logger ← (Logger.create s.files options).mapError .logger
  if !logger.isEnabled switch then return .disabled
  let m ← readMessage (← input s o.input)
  return .finished ((logger.submitIfPassing switch s.draw s.now m).drain s.network)

/-- Carries out a command. The result is what it writes. -/
def run (s : Surroundings) : Command → Except CommandError String
  | check rules => (policy s.files rules).map summary
  | apply rules path => do
    let p ← policy s.files rules
    let m ← readMessage (← input s path)
    return applied p s.draw m
  | submit options => (submitMessage s options).map Submission.report

end Command

end HttpAudit
