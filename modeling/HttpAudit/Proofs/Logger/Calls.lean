import HttpAudit.Logger.Basic
import HttpAudit.Proofs.Delivery.Address
import HttpAudit.Proofs.Rule.Form

set_option relaxedAutoImplicit false
set_option autoImplicit false

/-!
# Calls of a logger

However a logger is called, its pipeline is only ever handed the texts of messages. So what is known
of the pipeline is known of the logger. Here it is shown that requests of a logger go where its
options and its policy let them go, and nowhere if they let them go nowhere.

## Main definitions

* `HttpAudit.Logger.Call`, `HttpAudit.Logger.perform` — what can be done with a logger, and the
  state after that.
* `HttpAudit.Logger.Call.operation` — what a call does to the pipeline.

## Main results

* `HttpAudit.Logger.send_eq_submit` — logging an exchange is to hand over its text.
* `HttpAudit.Logger.process_perform` — a call is an operation on the pipeline.
* `HttpAudit.Logger.requests_of_calls` — where the requests of pipelines and loggers go.
-/

namespace HttpAudit

namespace Logger

/-- What can be done with a logger, and what else can happen to it. -/
inductive Call where
  /-- An exchange is logged. -/
  | send (draw : Draw) (exchange : Exchange) (now : String) (interval : Option Interval)
  /-- What the policy keeps of a message is logged. -/
  | submitIfPassing (draw : Draw) (now : String) (m : Message)
  /-- The text of a message is handed over, if there is one. -/
  | submit (message : Option String)
  /-- The logger is drained. -/
  | drain (network : Request → Reply)
  /-- The logger is enabled. -/
  | enable
  /-- The logger is disabled. -/
  | disable
  /-- Something else happens to its pipeline or to the switch of the process. -/
  | meanwhile (operation : Process.Operation)

/-- A logger and the switch of its process as a pipeline within a process. -/
def process (s : Logger × Switch) : Process where
  pipeline := s.1.pipeline
  switch := s.2

/-- The logger and the switch after a call. -/
def perform (s : Logger × Switch) : Call → Logger × Switch
  | .send draw exchange now interval => (s.1.send s.2 draw exchange now interval, s.2)
  | .submitIfPassing draw now m => (s.1.submitIfPassing s.2 draw now m, s.2)
  | .submit message => (s.1.submit s.2 message, s.2)
  | .drain network => (s.1.drain network, s.2)
  | .enable => (s.1.enable, s.2)
  | .disable => (s.1.disable, s.2)
  | .meanwhile operation =>
    let t := (process s).perform operation
    (s.1.mapPipeline fun _ => t.pipeline, t.switch)

/-- What a call does to the pipeline of a logger. -/
def Call.operation (l : Logger) : Call → Process.Operation
  | .send draw exchange now interval => .submit (l.format draw exchange now interval)
  | .submitIfPassing draw now m => .submit (l.finish draw now none m)
  | .submit message => .submit message
  | .drain network => .drain network
  | .enable => .enable
  | .disable => .disable
  | .meanwhile operation => operation

/-- Logging an exchange is to hand over its text. That a disabled logger makes no text does not
show, as its pipeline would not take it. -/
lemma send_eq_submit (l : Logger) (switch : Switch) (draw : Draw) (exchange : Exchange)
    (now : String) (interval : Option Interval) :
    l.send switch draw exchange now interval =
      l.submit switch (l.format draw exchange now interval) := by
  unfold send
  split_ifs with henabled
  · rfl
  · have hoff : l.pipeline.isEnabled switch = false := Bool.eq_false_iff.mpr henabled
    cases htext : l.format draw exchange now interval with
    | none => rfl
    | some text =>
      have hsame : l.pipeline.submit switch (some text) = l.pipeline := by
        simp [Pipeline.submit, hoff]
      rw [submit, mapPipeline, hsame]

/-- A call is an operation on the pipeline. -/
lemma process_perform (s : Logger × Switch) (call : Call) :
    process (perform s call) = (process s).perform (call.operation s.1) := by
  cases call with
  | send draw exchange now interval =>
    rw [perform, send_eq_submit]
    rfl
  | meanwhile operation => cases operation <;> rfl
  | _ => rfl

/-- Calls, one after the other, are operations on the pipeline, one after the other. -/
lemma exists_operations (s : Logger × Switch) (calls : List Call) :
    ∃ operations : List Process.Operation,
      process (calls.foldl perform s) = operations.foldl Process.perform (process s) := by
  induction calls generalizing s with
  | nil => exact ⟨[], rfl⟩
  | cons call calls ih =>
    obtain ⟨operations, hoperations⟩ := ih (perform s call)
    exact ⟨call.operation s.1 :: operations,
      by rw [List.foldl_cons, hoperations, process_perform]; rfl⟩

/-- Calls keep to the destination of the pipeline. -/
lemma keepsTo_calls {destination : Destination} {s : Logger × Switch}
    (h : s.1.pipeline.KeepsTo destination) (calls : List Call) :
    (calls.foldl perform s).1.pipeline.KeepsTo destination := by
  obtain ⟨operations, hoperations⟩ := exists_operations s calls
  show (process (calls.foldl perform s)).pipeline.KeepsTo destination
  rw [hoperations]
  exact Process.keepsTo_performAll h operations

/-- The pipeline of a new logger, whose destination its options and its policy settle. -/
lemma keepsTo_create {files : Files} {options : LoggerOptions} {l : Logger}
    (h : create files options = .ok l) :
    l.pipeline.KeepsTo
      (.ofTarget options.target options.defaultUrl (options.settings l.policy)) := by
  obtain ⟨policy, -, hl⟩ := bind_eq_ok_iff.mp h
  cases hl
  exact .create _ _ _

/-- **Requests go only where they may.** If nothing can be sent to the target of a pipeline, then
whatever happens to it, step by step or by whole operations, it is not enabled, it has issued no
request, and it has counted nothing. So much holds of the pipeline of a logger, however the logger
is called. The requests that a logger has issued go to the URL that its options name; one without
encryption only if its policy has a rule that allows this; and a logger with a queue has issued
none.

**Proof sketch.** A pipeline keeps to the destination with which it was created, at each step
(`Process.Step.keepsTo`) and so at each operation. What a collector's URL must be like is checked at
that time (`Destination.allowed_of_ofTarget`). The calls of a logger are operations on its pipeline
(`process_perform`). -/
theorem requests_of_calls :
    (∀ (target : Target) (fallback : Option String) (settings : DeliverySettings),
      target.IsUnusable fallback settings → ∀ switch : Switch,
        (∀ log s, Process.Run (.fresh target fallback settings switch) log s →
          s.pipeline.IsSilent ∧ s.pipeline.isEnabled s.switch = false) ∧
        ∀ operations : List Process.Operation,
          let s := operations.foldl Process.perform (.fresh target fallback settings switch)
          s.pipeline.IsSilent ∧ s.pipeline.isEnabled s.switch = false) ∧
    ∀ (files : Files) (options : LoggerOptions) (l : Logger), create files options = .ok l →
      ∀ (switch : Switch) (calls : List Call),
        let p := (calls.foldl perform (l, switch)).1.pipeline
        (options.target.IsUnusable options.defaultUrl (options.settings l.policy) → p.IsSilent) ∧
        (∀ request ∈ p.issued,
          (∃ text, options.target.url? options.defaultUrl = some text ∧
            WebUrl.parse? text.toList = some request.url) ∧
          (request.url.secure = false → ∃ rule ∈ l.policy.rules, rule.verb = .allowHttpUrl)) ∧
        (options.target = .queue → p.issued = []) := by
  have henabled {p : Pipeline} (h : p.IsSilent) (switch : Switch) : p.isEnabled switch = false := by
    rw [Pipeline.isEnabled, h.enabled_eq, Bool.false_and]
  constructor
  · intro target fallback settings hunusable switch
    have hnone := Destination.ofTarget_of_isUnusable hunusable
    have hstart := Pipeline.KeepsTo.create target fallback settings
    constructor
    · intro log s hrun
      have hsilent := (hrun.keepsTo hstart).isSilent hnone
      exact ⟨hsilent, henabled hsilent _⟩
    · intro operations
      have hsilent := (Process.keepsTo_performAll (s := .fresh target fallback settings switch)
        hstart operations).isSilent hnone
      exact ⟨hsilent, henabled hsilent _⟩
  · intro files options l hl switch calls p
    have hkeeps := keepsTo_calls (s := (l, switch)) (keepsTo_create hl) calls
    refine ⟨fun hunusable => hkeeps.isSilent (Destination.ofTarget_of_isUnusable hunusable), ?_, ?_⟩
    · intro request hrequest
      obtain ⟨endpoint, hto, hurl⟩ := hkeeps.issued_goesTo request hrequest
      obtain ⟨-, text, htext, hparse, hallowed⟩ := Destination.allowed_of_ofTarget hto
      rw [hurl]
      refine ⟨⟨text, htext, hparse⟩, fun hplain => ?_⟩
      have hallow : l.policy.hasVerb .allowHttpUrl = true :=
        hallowed.resolve_left (by rw [hplain]; exact Bool.false_ne_true)
      simpa [Policy.hasVerb_eq_any] using hallow
    · intro hqueue
      rw [List.eq_nil_iff_forall_not_mem]
      intro request hrequest
      obtain ⟨endpoint, hto, -⟩ := hkeeps.issued_goesTo request hrequest
      exact absurd hqueue (Destination.allowed_of_ofTarget hto).1

/-- A URL without encryption: a pipeline to which it is given is silent, whatever it is handed over.
A logger whose policy allows such URLs issues a request to it, and with a queue it issues none. -/
theorem requests_of_calls_plain :
    let target : Target := .url "http://[::1]/"
    let operations : List Process.Operation := [.enable, .submit (some "a"), .switch Switch.enable]
    let calls : List Call := [.submit (some "a"), .enable, .submitIfPassing ⟨0⟩ "1" ⟨[("b", "c")]⟩]
    let rules := some "allow_http_url\nskip_compression"
    target.IsUnusable none {} ∧
      (operations.foldl Process.perform (.fresh target none {} {})).pipeline.IsSilent ∧
      (∃ l, create (fun _ => none) { target, rules } = .ok l ∧
        (∃ request ∈ (calls.foldl perform (l, {})).1.pipeline.issued,
          request.url.secure = false) ∧
        ∃ rule ∈ l.policy.rules, rule.verb = .allowHttpUrl) ∧
      ∃ l, create (fun _ => none) { target := .queue, rules, defaultUrl := some "http://[::1]/" } =
          .ok l ∧ (calls.foldl perform (l, {})).1.pipeline.issued = [] := by
  intro target operations calls rules
  obtain ⟨hpipelines, hloggers⟩ := requests_of_calls
  have hunusable : target.IsUnusable none {} := by
    refine ⟨by simp [target], fun text htext => .inr ⟨"http".toList, ?_, by decide, fun _ => rfl⟩⟩
    cases htext
    decide +kernel
  refine ⟨hunusable, ((hpipelines _ _ _ hunusable _).2 operations).1, ?_, ?_⟩
  · have hissued : (create (fun _ => none) { target, rules }).toOption.map (fun l =>
        (calls.foldl perform (l, {})).1.pipeline.issued.map (·.url.secure)) =
          some [false, false] := by
      decide +kernel
    cases hl : create (fun _ => none) { target, rules } with
    | error e =>
      rw [hl] at hissued
      cases hissued
    | ok l =>
      simp only [hl, Except.toOption, Option.map_some, Option.some.injEq] at hissued
      obtain ⟨request, hrequest, hplain⟩ := List.mem_map.mp (hissued ▸ List.mem_cons_self)
      exact ⟨l, rfl, ⟨request, hrequest, hplain⟩,
        ((hloggers _ _ l hl {} calls).2.1 request hrequest).2 hplain⟩
  · have hcreated : (create (fun _ => none)
        { target := .queue, rules, defaultUrl := some "http://[::1]/" }).isOk = true := by
      decide +kernel
    cases hl : create (fun _ => none)
        { target := .queue, rules, defaultUrl := some "http://[::1]/" } with
    | error e =>
      rw [hl] at hcreated
      cases hcreated
    | ok l => exact ⟨l, rfl, (hloggers _ _ l hl {} calls).2.2 rfl⟩

end Logger

end HttpAudit
