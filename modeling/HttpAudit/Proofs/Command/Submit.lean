import HttpAudit.Command.Run
import HttpAudit.Proofs.Delivery.Address
import HttpAudit.Proofs.Delivery.Single
import HttpAudit.Proofs.Rule.Form

set_option relaxedAutoImplicit false
set_option autoImplicit false

/-!
# The command that delivers a message

What the command writes tells what has become of its message. Its logger is made of what the command
line says and of what the configuration file says, where the former wins except for the URL. Either
the logger is disabled, or it makes one request at most.

## Main definitions

* `HttpAudit.Command.configOf` — what the configuration file of a command says.
* `HttpAudit.Command.destination?` — where the message of a command goes.
* `HttpAudit.Command.IsOff` — nothing is to be delivered.
* `HttpAudit.Command.IsAccountOf` — what a command writes and requests, once it has read its
  message.

## Main results

* `HttpAudit.Command.run_submit` — what the command writes, and which request it makes.
-/

namespace HttpAudit

/-! ## What a command says -/

namespace Command

/-- What the configuration file of a command says, if it names one. -/
def configOf (files : Files) (o : SubmitOptions) : Except ConfigError Config :=
  match o.config with
  | some path => Config.load files path
  | none => .ok {}

/-- Where the message of a command goes: to the URL of the configuration file if there is one, and
else to that of the command line. Without encryption it is used only if the policy allows it. -/
def destination? (policy : Policy) (config : Config) (o : SubmitOptions) : Option WebUrl := do
  let url ← WebUrl.parse? (← config.url <|> o.url).toList
  if url.secure || policy.allowHttpUrl then some url else none

/-- Nothing is to be delivered: the command line, the environment or the configuration file says so,
or there is no usable destination. -/
def IsOff (s : Surroundings) (o : SubmitOptions) (config : Config) (policy : Policy) : Prop :=
  o.disableAll = true ∨ s.environment disableVariable = some "true" ∨ config.enabled = some false ∨
    destination? policy config o = none

/-- The pairs behind what is kept of a message. -/
def trailerOf (s : Surroundings) (o : SubmitOptions) (config : Config) : List (String × String) :=
  [("now", s.now), ("agent", config.agent.getD "http_logger.rs"),
    ("host", (o.host <|> config.host).getD "unknown"), ("version", "0.1.0")]

/-- The numbers of messages that a command says have been delivered or not, and the requests that it
has made, for what its policy keeps of its message. -/
structure IsAccountOf (s : Surroundings) (o : SubmitOptions) (config : Config) (policy : Policy)
    (kept : Option Message) (submitted failed : Nat) (requests : List (Request × Reply)) :
    Prop where
  /-- One message is accounted for if something is kept and may be delivered, and none otherwise. -/
  total : submitted + failed =
    if kept.isSome ∧ ∀ rule ∈ policy.rules, rule.verb ≠ .skipSubmission then 1 else 0
  /-- There are as many requests, and each is counted. -/
  count : requests.length = submitted + failed
  /-- A request goes to the destination, and delivers what is kept, with the trailer behind it. It
  counts as delivered if and only if the collector has answered that there is no content. -/
  request : ∀ r ∈ requests, destination? policy config o = some r.1.url ∧
    r.1.message? = kept.map (fun m => ⟨m.fields ++ trailerOf s o config⟩) ∧ r.2 = s.network r.1 ∧
    (submitted = 1 ↔ r.2 = .status 204)

/-! ## The logger of a command -/

/-- The options of the logger of a command, for what the configuration file says. -/
def optionsOf (o : SubmitOptions) (config : Config) : LoggerOptions :=
  { config.options with
    rules := o.rules <|> config.rules
    host := o.host.getD config.options.host
    defaultUrl := o.url }

/-- The logger of a command, for what the configuration file says and for its policy. -/
def loggerOf (o : SubmitOptions) (config : Config) (policy : Policy) : Logger :=
  let options := optionsOf o config
  { policy
    pipeline := .create options.target options.defaultUrl (options.settings policy)
    agent := options.agent
    host := options.host
    version := options.version }

/-- The switch of the process, for what the command line and the environment say. -/
def switchOf (s : Surroundings) (o : SubmitOptions) : Switch :=
  .setHardDisabled {} (isHardDisabled o.disableAll (s.environment disableVariable))

/-- The options of the logger are made of the configuration file and of the command line. -/
lemma loggerOptions_eq (files : Files) (o : SubmitOptions) :
    loggerOptions files o = ((configOf files o).mapError .config).map (optionsOf o) := by
  unfold loggerOptions configOf
  cases o.config with
  | none => rfl
  | some path =>
    simp only
    cases Config.load files path <;> rfl

/-- A logger is created if its rules can be compiled. -/
lemma create_eq_ok {files : Files} {o : SubmitOptions} {config : Config} {logger : Logger}
    (h : Logger.create files (optionsOf o config) = .ok logger) :
    ∃ policy, Policy.resolve files .strict (o.rules <|> config.rules) = .ok policy ∧
      logger = loggerOf o config policy := by
  obtain ⟨policy, hpolicy, hlogger⟩ := bind_eq_ok_iff.mp h
  cases hlogger
  exact ⟨policy, hpolicy, rfl⟩

/-- The error of a computation may be changed without changing what it gives. -/
lemma mapError_eq_ok_iff {ε ε' α : Type} {x : Except ε α} {f : ε → ε'} {a : α} :
    x.mapError f = .ok a ↔ x = .ok a := by
  cases x <;> simp [Except.mapError]

/-- What becomes of a message is decided by the logger of the command. -/
lemma submitMessage_eq_ok {s : Surroundings} {o : SubmitOptions} {submission : Submission}
    (h : submitMessage s o = .ok submission) :
    ∃ config policy, configOf s.files o = .ok config ∧
      Policy.resolve s.files .strict (o.rules <|> config.rules) = .ok policy ∧
      if (loggerOf o config policy).isEnabled (switchOf s o) then
        ∃ text m, input s o.input = .ok text ∧ readMessage text = .ok m ∧
          submission = .finished (((loggerOf o config policy).submitIfPassing (switchOf s o)
            s.draw s.now m).drain s.network)
      else submission = .disabled := by
  unfold submitMessage at h
  obtain ⟨options, hoptions, h⟩ := bind_eq_ok_iff.mp h
  obtain ⟨logger, hlogger, h⟩ := bind_eq_ok_iff.mp h
  rw [loggerOptions_eq] at hoptions
  obtain ⟨config, hconfig, rfl⟩ : ∃ config, configOf s.files o = .ok config ∧
      options = optionsOf o config := by
    cases hconfig : configOf s.files o with
    | error e =>
      rw [hconfig] at hoptions
      cases hoptions
    | ok config =>
      rw [hconfig] at hoptions
      cases hoptions
      exact ⟨config, rfl, rfl⟩
  obtain ⟨policy, hpolicy, rfl⟩ := create_eq_ok (mapError_eq_ok_iff.mp hlogger)
  refine ⟨config, policy, hconfig, hpolicy, ?_⟩
  cases henabled : (loggerOf o config policy).isEnabled (switchOf s o) with
  | false =>
    rw [if_neg Bool.false_ne_true]
    change (if !(loggerOf o config policy).isEnabled (switchOf s o) then _ else _) = _ at h
    rw [henabled] at h
    cases h
    rfl
  | true =>
    rw [if_pos rfl]
    change (if !(loggerOf o config policy).isEnabled (switchOf s o) then _ else _) = _ at h
    rw [henabled] at h
    obtain ⟨text, htext, h⟩ := bind_eq_ok_iff.mp h
    obtain ⟨m, hm, h⟩ := bind_eq_ok_iff.mp h
    cases h
    exact ⟨text, m, htext, hm, rfl⟩

/-! ## Whether the logger is enabled -/

/-- The pipeline of the logger goes to the destination, if there is one. -/
lemma destination_loggerOf (o : SubmitOptions) (config : Config) (policy : Policy) :
    (destination? policy config o = none ∧
        (loggerOf o config policy).pipeline.destination = .unusable) ∨
      ∃ endpoint, destination? policy config o = some endpoint.url ∧
        (loggerOf o config policy).pipeline.destination = .collector endpoint := by
  -- a configuration file names a URL, or leaves it to the command line, but never names a queue
  have hqueue : config.options.target ≠ .queue := by
    unfold Config.options
    cases config.url <;> simp
  have hurl : config.options.target.url? o.url = (config.url <|> o.url) := by
    unfold Config.options
    cases config.url <;> rfl
  have htarget := @Destination.ofTarget_of_ne_queue _ o.url ((optionsOf o config).settings policy)
    hqueue
  simp only [hurl, LoggerOptions.settings, optionsOf] at htarget
  have hdestination : destination? policy config o = ((config.url <|> o.url).bind
      (Endpoint.ofUrl? policy.allowHttpUrl config.options.agent config.options.version)).map
        Endpoint.url := by
    unfold destination?
    cases config.url <|> o.url with
    | none => rfl
    | some text =>
      simp only [Option.bind_eq_bind, Option.bind_some, Endpoint.ofUrl?]
      cases WebUrl.parse? text.toList with
      | none => rfl
      | some url =>
        simp only [Option.bind_some]
        split <;> rfl
  rw [hdestination]
  cases hendpoint : (config.url <|> o.url).bind
      (Endpoint.ofUrl? policy.allowHttpUrl config.options.agent config.options.version) with
  | none =>
    refine .inl ⟨rfl, htarget.trans ?_⟩
    rw [hendpoint]
  | some endpoint =>
    refine .inr ⟨endpoint, rfl, htarget.trans ?_⟩
    rw [hendpoint]

/-- The logger of the command is disabled if nothing is to be delivered. -/
lemma isEnabled_loggerOf (s : Surroundings) (o : SubmitOptions) (config : Config)
    (policy : Policy) :
    (loggerOf o config policy).isEnabled (switchOf s o) = false ↔ IsOff s o config policy := by
  have hswitch : (switchOf s o).isEnabled = false ↔
      o.disableAll = true ∨ s.environment disableVariable = some "true" := by
    unfold switchOf Switch.setHardDisabled Switch.isEnabled isHardDisabled
    cases o.disableAll <;> simp
  have hconfig : config.options.enabled = false ↔ config.enabled = some false := by
    unfold Config.options
    cases config.enabled <;> simp
  have henabled : (loggerOf o config policy).isEnabled (switchOf s o) =
      (config.options.enabled &&
          (loggerOf o config policy).pipeline.destination != .unusable &&
        (switchOf s o).isEnabled) := rfl
  rw [henabled, IsOff, Bool.and_eq_false_iff, Bool.and_eq_false_iff, hswitch, hconfig]
  rcases destination_loggerOf o config policy with
    ⟨hnone, hunusable⟩ | ⟨endpoint, hsome, hcollector⟩
  · simp [hnone, hunusable]
  · have husable : (Destination.collector endpoint != Destination.unusable) = true := rfl
    simp only [hsome, hcollector, husable, Bool.true_eq_false, or_false, reduceCtorEq]
    tauto

/-! ## What is written -/

section Account

variable {s : Surroundings} {o : SubmitOptions} {config : Config} {policy : Policy}

/-- A policy keeps messages from being submitted if it has a rule that says so. -/
lemma skipSubmission_eq_false_iff :
    policy.skipSubmission = false ↔ ∀ rule ∈ policy.rules, rule.verb ≠ .skipSubmission := by
  simp [Policy.skipSubmission, Policy.hasVerb_eq_any]

/-- If nothing is kept, or nothing may be submitted, then there is no request. -/
lemma isAccountOf_nothing {kept : Option Message}
    (h : ¬(kept.isSome = true ∧ policy.skipSubmission = false)) :
    IsAccountOf s o config policy kept 0 0 [] where
  total := by
    rw [skipSubmission_eq_false_iff] at h
    exact (if_neg h).symm
  count := rfl
  request := by simp

/-- If something is kept and may be submitted, then there is one request. -/
lemma isAccountOf_request {endpoint : Endpoint} (kept : Message) (encoding : Encoding)
    (hdestination : destination? policy config o = some endpoint.url)
    (hskip : policy.skipSubmission = false) :
    let request := endpoint.request encoding
      (((loggerOf o config policy).trailer s.now none).addTo kept).toJson
    let reply := s.network request
    IsAccountOf s o config policy (some kept) (if reply.isSuccess then 1 else 0)
      (if reply.isSuccess then 0 else 1) [(request, reply)] := by
  intro request reply
  have hsuccess : reply.isSuccess = true ↔ reply = .status 204 := by
    rw [Process.isSuccess_eq, decide_eq_true_iff]
  have htrailer : ((loggerOf o config policy).trailer s.now none).addTo kept =
      ⟨kept.fields ++ trailerOf s o config⟩ := by
    have hhost : o.host.getD (config.host.getD "unknown") =
        (o.host <|> config.host).getD "unknown" := by
      cases o.host <;> rfl
    rw [trailerOf, ← hhost]
    rfl
  have hone : (if (some kept).isSome ∧ ∀ rule ∈ policy.rules, rule.verb ≠ .skipSubmission
      then 1 else 0) = 1 := if_pos ⟨rfl, skipSubmission_eq_false_iff.mp hskip⟩
  constructor
  · rw [hone]
    split <;> rfl
  · split <;> rfl
  · intro r hr
    obtain rfl := List.mem_singleton.mp hr
    refine ⟨hdestination, ?_, rfl, ?_⟩
    · rw [Option.map_some, ← htrailer]
      exact endpoint.message?_request encoding _
    · rw [← hsuccess]
      split <;> simp_all

/-- What becomes of the message of a logger that is enabled.

**Proof sketch.** The pipeline is new, so that it makes one request at most, which has been counted
when it has been drained (`Pipeline.IsIdle.drain_submit`). -/
lemma isAccountOf_drain (h : (loggerOf o config policy).isEnabled (switchOf s o) = true)
    (m : Message) :
    let logger := ((loggerOf o config policy).submitIfPassing (switchOf s o) s.draw s.now m).drain
      s.network
    IsAccountOf s o config policy (policy.apply s.draw m) logger.pipeline.successes
      logger.pipeline.failures logger.pipeline.ended := by
  obtain ⟨endpoint, hdestination, hcollector⟩ : ∃ endpoint,
      destination? policy config o = some endpoint.url ∧
        (loggerOf o config policy).pipeline.destination = .collector endpoint := by
    rcases destination_loggerOf o config policy with ⟨hnone, -⟩ | hsome
    · have hoff : IsOff s o config policy := .inr (.inr (.inr hnone))
      rw [← isEnabled_loggerOf, h] at hoff
      cases hoff
    · exact hsome
  have hidle : (loggerOf o config policy).pipeline.IsIdle := Pipeline.isIdle_create ..
  have hskip : (loggerOf o config policy).pipeline.skipSubmission = policy.skipSubmission := rfl
  have hdrain := hidle.drain_submit hcollector h
    ((loggerOf o config policy).finish s.draw s.now none m) s.network
  have hfinish : (loggerOf o config policy).finish s.draw s.now none m =
      (policy.apply s.draw m).map fun kept =>
        (((loggerOf o config policy).trailer s.now none).addTo kept).toJson := rfl
  intro logger
  change logger.pipeline = _ at hdrain
  rw [hdrain, hfinish, hskip]
  cases policy.apply s.draw m with
  | none => exact isAccountOf_nothing (by simp)
  | some kept =>
    cases hskipped : policy.skipSubmission with
    | true => exact isAccountOf_nothing (by simp [hskipped])
    | false =>
      have hrequest := @isAccountOf_request s o config policy endpoint kept
        (loggerOf o config policy).pipeline.encoding hdestination hskipped
      simp only [Option.map_some, Bool.false_eq_true, if_false, Pipeline.after]
      have hnew : (loggerOf o config policy).pipeline.successes = 0 ∧
          (loggerOf o config policy).pipeline.failures = 0 ∧
          (loggerOf o config policy).pipeline.ended = [] := ⟨rfl, rfl, rfl⟩
      rw [hnew.1, hnew.2.1, hnew.2.2, Nat.zero_add, Nat.zero_add, List.nil_append]
      exact hrequest

end Account

/-- What is written about a logger is not that it is disabled. -/
lemma report_finished_ne (logger : Logger) :
    (Submission.finished logger).report ≠ "disabled\n" := by
  intro h
  have hwords : "submitted: ".toList = 's' :: "ubmitted: ".toList ∧
      "disabled\n".toList = 'd' :: "isabled\n".toList := by decide
  have hletters := congrArg String.toList h
  simp only [Submission.report, String.toList_append, hwords.1, hwords.2,
    List.cons_append] at hletters
  exact absurd (List.cons.inj hletters).1 (by decide)

/-- **What the command writes.** If the command succeeds, then its configuration file could be read
if it has one, and its rules could be compiled: those of the command line if there are some, else
those of the configuration file, else the strict ones. It writes that it is disabled if and only if
nothing is to be delivered, and it makes no request then. Otherwise it has read a message, and
writes how many messages have been delivered and how many have not, which is right: one message is
accounted for if the rules keep it and do not keep it from being submitted, and none otherwise; each
is the message of a request to the destination, with the trailer behind what is kept; and it has
been delivered if and only if the collector has answered that there is no content.

**Proof sketch.** The logger of the command is made of its options and its policy
(`submitMessage_eq_ok`), and it is disabled if nothing is to be delivered (`isEnabled_loggerOf`).
What its pipeline has done when it has been drained is `isAccountOf_drain`. -/
theorem run_submit {s : Surroundings} {o : SubmitOptions} {out : String}
    (h : run s (.submit o) = .ok out) :
    ∃ config policy submission, configOf s.files o = .ok config ∧
      Policy.resolve s.files .strict (o.rules <|> config.rules) = .ok policy ∧
      submitMessage s o = .ok submission ∧ submission.report = out ∧
      (out = "disabled\n" ↔ IsOff s o config policy) ∧
      (IsOff s o config policy → submission.requests = []) ∧
      (¬IsOff s o config policy → ∃ text m submitted failed,
        input s o.input = .ok text ∧ readMessage text = .ok m ∧
        out = "submitted: " ++ toString submitted ++ "\nfailed: " ++ toString failed ++ "\n" ∧
        IsAccountOf s o config policy (policy.apply s.draw m) submitted failed
          submission.requests) := by
  obtain ⟨submission, hsubmission, rfl⟩ : ∃ submission, submitMessage s o = .ok submission ∧
      submission.report = out := by
    change (submitMessage s o).map Submission.report = .ok out at h
    cases hsubmit : submitMessage s o with
    | error e =>
      rw [hsubmit] at h
      cases h
    | ok submission =>
      rw [hsubmit] at h
      cases h
      exact ⟨submission, rfl, rfl⟩
  obtain ⟨config, policy, hconfig, hpolicy, hrest⟩ := submitMessage_eq_ok hsubmission
  refine ⟨config, policy, submission, hconfig, hpolicy, hsubmission, rfl, ?_⟩
  cases henabled : (loggerOf o config policy).isEnabled (switchOf s o) with
  | false =>
    have hoff : IsOff s o config policy := isEnabled_loggerOf s o config policy |>.mp henabled
    rw [henabled, if_neg Bool.false_ne_true] at hrest
    subst hrest
    exact ⟨⟨fun _ => hoff, fun _ => rfl⟩, fun _ => rfl, fun hon => absurd hoff hon⟩
  | true =>
    have hon : ¬IsOff s o config policy := by
      rw [← isEnabled_loggerOf, henabled]
      exact Bool.true_eq_false.mp
    rw [henabled, if_pos rfl] at hrest
    obtain ⟨text, m, htext, hm, rfl⟩ := hrest
    exact ⟨⟨fun hout => absurd hout (report_finished_ne _), fun hoff => absurd hoff hon⟩,
      fun hoff => absurd hoff hon, fun _ =>
        ⟨text, m, _, _, htext, hm, rfl, isAccountOf_drain henabled m⟩⟩

set_option maxRecDepth 8000 in
/-- A command whose rules take the place of those in its configuration file, which has the URL: the
collector answers, and the request has what the rules keep of the message. -/
theorem run_submit_answered :
    let s : Surroundings :=
      { files := fun path =>
          if path = "c" then
            some (Text.Utf8.encode "url: https://[::1]/\nrules: skip_submission\n".toList)
          else none
        stdin := Text.Utf8.encode "[[\"a\",\"1\"],[\"b\",\"2\"]]\n".toList
        environment := fun _ => none
        now := "5"
        draw := ⟨0⟩
        network := fun _ => .status 204 }
    let o : SubmitOptions := { config := some "c", rules := some "/b/ remove", host := some "h" }
    run s (.submit o) = .ok "submitted: 1\nfailed: 0\n" ∧
      ∃ submission r, submitMessage s o = .ok submission ∧ submission.requests = [r] ∧
        r.1.message? = some ⟨[("a", "1"), ("now", "5"), ("agent", "http_logger.rs"), ("host", "h"),
          ("version", "0.1.0")]⟩ := by
  intro s o
  have hrun : run s (.submit o) = .ok "submitted: 1\nfailed: 0\n" := by decide +kernel
  refine ⟨hrun, ?_⟩
  obtain ⟨config, policy, submission, hconfig, hpolicy, hsubmission, -, hdisabled, -, hdelivers⟩ :=
    run_submit hrun
  have hon : ¬IsOff s o config policy := by
    rw [← hdisabled]
    decide
  obtain ⟨text, m, submitted, failed, htext, hm, -, haccount⟩ := hdelivers hon
  have hread : (input s o.input).toOption.map readMessage =
      some (.ok ⟨[("a", "1"), ("b", "2")]⟩) := by decide +kernel
  obtain rfl : m = ⟨[("a", "1"), ("b", "2")]⟩ := by
    simpa [htext, hm, Except.toOption] using hread
  have hrules : (Policy.resolve s.files .strict o.rules).toOption.map
      (fun p => (p.apply s.draw ⟨[("a", "1"), ("b", "2")]⟩, p.rules.map Rule.verb)) =
        some (some ⟨[("a", "1")]⟩, [.remove]) := by decide +kernel
  have hsame : (o.rules <|> config.rules) = o.rules := rfl
  rw [← hsame, hpolicy] at hrules
  simp only [Except.toOption, Option.map_some, Option.some.injEq, Prod.mk.injEq] at hrules
  obtain ⟨hkept, hverbs⟩ := hrules
  have hskip : ∀ rule ∈ policy.rules, rule.verb ≠ .skipSubmission := by
    intro rule hrule
    have hverb : rule.verb ∈ policy.rules.map Rule.verb := List.mem_map_of_mem hrule
    rw [hverbs, List.mem_singleton] at hverb
    rw [hverb]
    decide
  have hone := haccount.total
  rw [hkept, if_pos ⟨rfl, hskip⟩, ← haccount.count] at hone
  obtain ⟨r, hr⟩ := List.length_eq_one_iff.mp hone
  obtain ⟨-, hmessage, -⟩ := haccount.request r (by simp [hr])
  have hconfigured : configOf s.files o =
      .ok { url := some "https://[::1]/", rules := some "skip_submission" } := by decide +kernel
  rw [hconfig] at hconfigured
  cases hconfigured
  exact ⟨submission, r, hsubmission, hr, by rw [hmessage, hkept]; rfl⟩

end Command

end HttpAudit
