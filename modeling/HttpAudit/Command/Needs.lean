import HttpAudit.Command.Run

/-!
# What commands need

What has to be read before a command is carried out.

## Main definitions

* `HttpAudit.Command.paths` — the files that a command may read.
* `HttpAudit.Command.readsStdin` — whether a command may read the standard input.
-/

namespace HttpAudit.Command

/-- The file that rules are in, if they are in one. -/
def rulesPaths (rules : Option String) : List String := (rules.bind rulesPath?).toList

/-- The files that a command may read, as far as the given ones tell: which file a configuration
file names is known only once it has been read. -/
def paths (files : Files) : Command → List String
  | check rules => rulesPaths rules
  | apply rules input => rulesPaths rules ++ input.toList
  | submit o =>
    let configured := match loggerOptions files o with
      | .ok options => rulesPaths options.rules
      | .error _ => []
    o.config.toList ++ configured ++ o.input.toList

/-- Whether a command may read the standard input. -/
def readsStdin : Command → Bool
  | check _ => false
  | apply _ input => input.isNone
  | submit o => o.input.isNone

end HttpAudit.Command
