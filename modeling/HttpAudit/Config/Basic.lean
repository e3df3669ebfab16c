import HttpAudit.Logger.Options
import HttpAudit.Yaml.Entries

/-!
# Configuration files

A configuration file is a table with the settings of a logger. Each setting may be missing; no other
entries are allowed.

## Main definitions

* `HttpAudit.Config` — what a configuration file says.
* `HttpAudit.Config.ofText?` — reads the text of a file.
* `HttpAudit.Config.load` — reads a file.
* `HttpAudit.Config.options` — the options of a logger that is configured so.
-/

namespace HttpAudit

/-- What a configuration file says. -/
structure Config where
  /-- The URL of the collector. -/
  url : Option String := none
  /-- The rules, or the file that they are in. -/
  rules : Option String := none
  /-- Whether the logger starts enabled. -/
  enabled : Option Bool := none
  /-- The greatest number of deliveries that run at the same time. -/
  maxInFlight : Option Nat := none
  /-- The name of the program. -/
  agent : Option String := none
  /-- The name of the machine. -/
  host : Option String := none
  deriving DecidableEq, Repr

/-- Why a configuration file cannot be used. -/
inductive ConfigError where
  /-- It cannot be read. -/
  | unreadable (path : String)
  /-- It is not well formed. -/
  | malformed (path : String)
  /-- It allows no deliveries at all. -/
  | noneInFlight (path : String)
  deriving DecidableEq, Repr

/-- The text of an error. -/
def ConfigError.message : ConfigError → String
  | unreadable path => "Failed to read config file " ++ path
  | malformed path => "Failed to parse config file " ++ path
  | noneInFlight path => "max_in_flight must be at least 1 in " ++ path

namespace Config

/-- The settings with the one that an entry makes. -/
def set? (config : Config) (name : String) (value : Yaml.Scalar) : Option Config :=
  let text := value.optional? fun s => some s.string
  match name with
  | "url" => text.map fun url => { config with url }
  | "rules" => text.map fun rules => { config with rules }
  | "enabled" => (value.optional? (·.bool?)).map fun enabled => { config with enabled }
  | "max_in_flight" => (value.optional? (·.nat?)).map fun n => { config with maxInFlight := n }
  | "agent" => text.map fun agent => { config with agent }
  | "host" => text.map fun host => { config with host }
  | _ => none

/-- What the entries of a table say. No two may be about the same setting. -/
def ofEntries? (entries : Yaml.Entries) : Option Config :=
  let names := entries.map fun entry => entry.1.string
  if names.Nodup then
    entries.foldlM (fun config entry => config.set? entry.1.string entry.2) {}
  else none

/-- What the text of a file says. -/
def ofText? (text : String) : Option Config := do ofEntries? (← Yaml.entries? text.toList)

/-- What a file says. -/
def load (files : Files) (path : String) : Except ConfigError Config :=
  match files.text? path with
  | none => .error (.unreadable path)
  | some text =>
    match ofText? text with
    | none => .error (.malformed path)
    | some config =>
      if config.maxInFlight == some 0 then .error (.noneInFlight path) else .ok config

/-- The options of a logger that is configured so. -/
def options (config : Config) : LoggerOptions :=
  let usual : LoggerOptions := {}
  { usual with
    target := match config.url with
      | some url => .url url
      | none => .byDefault
    rules := config.rules
    enabled := config.enabled.getD usual.enabled
    maxInFlight := config.maxInFlight.getD usual.maxInFlight
    agent := config.agent.getD usual.agent
    host := config.host.getD usual.host }

end Config

end HttpAudit
