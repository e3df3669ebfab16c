import HttpAudit.Logger.Options
import HttpAudit.Message.Build
import HttpAudit.Message.Trailer
import HttpAudit.Policy.Session

/-!
# Loggers

A logger makes a message of each exchange, keeps of it what its policy allows, and hands it over
to its pipeline.

## Main definitions

* `HttpAudit.Logger` — a logger with its state.
* `HttpAudit.Logger.create` — a new logger.
* `HttpAudit.Logger.format` — the text of the message that a logger makes of an exchange.
* `HttpAudit.Logger.send` — logs an exchange.
-/

namespace HttpAudit

/-- A logger with its state. -/
structure Logger where
  /-- The policy. -/
  policy : Policy
  /-- The pipeline that takes the messages. -/
  pipeline : Pipeline
  /-- The name of the program. -/
  agent : String
  /-- The name of the machine. -/
  host : String
  /-- The version of the program. -/
  version : String

/-- How the pipeline of a logger with these options and this policy behaves. -/
def LoggerOptions.settings (options : LoggerOptions) (policy : Policy) : DeliverySettings where
  enabled := options.enabled
  allowHttpUrl := policy.allowHttpUrl
  skipCompression := policy.skipCompression
  skipSubmission := policy.skipSubmission
  maxInFlight := options.maxInFlight
  agent := options.agent
  version := options.version

namespace Logger

/-- A new logger. Only its rules can be wrong: without a usable destination it is disabled. -/
def create (files : Files) (options : LoggerOptions) : Except RuleError Logger := do
  let policy ← Policy.resolve files (options.defaultRules.getD .strict) options.rules
  return {
    policy
    pipeline := .create options.target options.defaultUrl (options.settings policy)
    agent := options.agent
    host := options.host
    version := options.version }

/-- Whether the logger and the switch of the process are both enabled. -/
def isEnabled (l : Logger) (switch : Switch) : Bool := l.pipeline.isEnabled switch

/-- The trailer of the messages of the logger. -/
def trailer (l : Logger) (now : String) (interval : Option Interval) : Trailer :=
  ⟨now, interval, l.agent, l.host, l.version⟩

/-- The text of what the policy keeps of a message, with the trailer. -/
def finish (l : Logger) (draw : Draw) (now : String) (interval : Option Interval) (m : Message) :
    Option String :=
  (l.policy.apply draw m).map fun kept => ((l.trailer now interval).addTo kept).toJson

/-- The text of the message that the logger makes of an exchange, unless its policy drops it. -/
def format (l : Logger) (draw : Draw) (exchange : Exchange) (now : String)
    (interval : Option Interval) : Option String :=
  l.finish draw now interval
    (l.policy.copySessionFields exchange.request.session exchange.message)

/-- The logger after its pipeline has changed. -/
def mapPipeline (l : Logger) (f : Pipeline → Pipeline) : Logger :=
  { l with pipeline := f l.pipeline }

/-- Hands over the text of a message. -/
def submit (l : Logger) (switch : Switch) (message : Option String) : Logger :=
  l.mapPipeline (·.submit switch message)

/-- Logs an exchange. Nothing happens while the logger is disabled. -/
def send (l : Logger) (switch : Switch) (draw : Draw) (exchange : Exchange) (now : String)
    (interval : Option Interval) : Logger :=
  if l.isEnabled switch then l.submit switch (l.format draw exchange now interval) else l

/-- Logs what the policy keeps of a message. -/
def submitIfPassing (l : Logger) (switch : Switch) (draw : Draw) (now : String) (m : Message) :
    Logger :=
  l.submit switch (l.finish draw now none m)

/-- Waits until no delivery runs. -/
def drain (l : Logger) (network : Request → Reply) : Logger :=
  l.mapPipeline (·.drain network)

/-- The logger enabled, if it can be. -/
def enable (l : Logger) : Logger := l.mapPipeline (·.enable)

/-- The logger disabled. -/
def disable (l : Logger) : Logger := l.mapPipeline (·.disable)

end Logger

end HttpAudit
