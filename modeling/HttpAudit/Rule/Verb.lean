/-!
# Verbs of rules

What a rule can ask for, and the keywords that ask for it.

## Main definitions

* `HttpAudit.Verb` — the operations of the rule language.
* `HttpAudit.Verb.all` — all of them, in the order in which a line is compared with them.
* `HttpAudit.Verb.keyword` — the word that a rule is written with.
-/

namespace HttpAudit

/-- The operations of the rule language. -/
inductive Verb where
  /-- Messages may go to a URL without encryption. -/
  | allowHttpUrl
  /-- Entries of the session are copied into the message. -/
  | copySessionField
  /-- Fields are removed. -/
  | remove
  /-- Fields are removed if their whole value matches. -/
  | removeIf
  /-- Fields are removed if a part of their value matches. -/
  | removeIfFound
  /-- Fields are removed unless their whole value matches. -/
  | removeUnless
  /-- Fields are removed unless a part of their value matches. -/
  | removeUnlessFound
  /-- Parts of values are replaced. -/
  | replace
  /-- Only a share of the messages is kept. -/
  | sample
  /-- Messages are sent without compression. -/
  | skipCompression
  /-- Messages are not sent at all. -/
  | skipSubmission
  /-- The message is dropped if it has a field. -/
  | stop
  /-- The message is dropped if the whole value of a field matches. -/
  | stopIf
  /-- The message is dropped if a part of the value of a field matches. -/
  | stopIfFound
  /-- The message is dropped unless the whole value of a field matches. -/
  | stopUnless
  /-- The message is dropped unless a part of the value of a field matches. -/
  | stopUnlessFound
  deriving DecidableEq, Repr

namespace Verb

/-- All verbs, in the order in which a line is compared with them. -/
def all : List Verb :=
  [allowHttpUrl, copySessionField, remove, removeIf, removeIfFound, removeUnless,
   removeUnlessFound, replace, sample, skipCompression, skipSubmission, stop, stopIf, stopIfFound,
   stopUnless, stopUnlessFound]

/-- No verb is left out of the list of all verbs. -/
theorem mem_all (v : Verb) : v ∈ all := by
  cases v <;> decide

/-- No verb is listed twice. -/
theorem nodup_all : all.Nodup := by decide

/-- The word that a rule is written with. -/
def keyword : Verb → String
  | allowHttpUrl => "allow_http_url"
  | copySessionField => "copy_session_field"
  | remove => "remove"
  | removeIf => "remove_if"
  | removeIfFound => "remove_if_found"
  | removeUnless => "remove_unless"
  | removeUnlessFound => "remove_unless_found"
  | replace => "replace"
  | sample => "sample"
  | skipCompression => "skip_compression"
  | skipSubmission => "skip_submission"
  | stop => "stop"
  | stopIf => "stop_if"
  | stopIfFound => "stop_if_found"
  | stopUnless => "stop_unless"
  | stopUnlessFound => "stop_unless_found"

/-- What a rule consists of besides its verb. -/
inductive Form where
  /-- Nothing. -/
  | bare
  /-- A pattern behind the verb. -/
  | key
  /-- A scope before the verb. -/
  | scope
  /-- A scope before the verb and a pattern behind it. -/
  | condition
  /-- A scope before the verb, and a pattern and a replacement behind it. -/
  | substitution
  /-- A percentage behind the verb. -/
  | percentage
  deriving DecidableEq, Repr

/-- What a rule with the verb consists of. -/
def form : Verb → Form
  | allowHttpUrl | skipCompression | skipSubmission => .bare
  | copySessionField => .key
  | remove | stop => .scope
  | removeIf | removeIfFound | removeUnless | removeUnlessFound => .condition
  | stopIf | stopIfFound | stopUnless | stopUnlessFound => .condition
  | replace => .substitution
  | sample => .percentage

/-- Whether the pattern behind the verb is searched for in a value, where others must match all
of it. -/
def isSearch : Verb → Bool
  | removeIfFound | removeUnlessFound | stopIfFound | stopUnlessFound | replace => true
  | _ => false

end Verb

end HttpAudit
