import HttpAudit.Delivery.Pipeline
import Mathlib.Tactic.Common

set_option relaxedAutoImplicit false
set_option autoImplicit false

/-!
# Histories of a process with several pipelines

A process may have any number of pipelines, all of which obey its switch. Here it is shown what a
queue holds after any history of the process, told from the history alone: the messages that were
handed over while the pipeline was enabled, the switch was on, and messages were sent at all.

## Main definitions

* `HttpAudit.Fleet` — the pipelines of a process, with its switch.
* `HttpAudit.Fleet.Action`, `HttpAudit.Fleet.after` — what can be done, and the state after that.
* `HttpAudit.Fleet.isHard`, `HttpAudit.Fleet.isOn`, `HttpAudit.Fleet.flag` — what a history says of
  the switch and of the flag of a pipeline.
* `HttpAudit.Fleet.accepted` — the messages of a history that get through to a queue.
* `HttpAudit.Fleet.Holds` — the state of a pipeline with a queue.

## Main results

* `HttpAudit.Fleet.switch_after` — the switch is as the history says.
* `HttpAudit.Fleet.isOn_append` — while the configuration forbids it, the switch stays off.
* `HttpAudit.Fleet.Holds.perform` — what an action does to a pipeline with a queue.
* `HttpAudit.Fleet.queue_after` — a queue holds the messages that get through.

## Design

A history is a list of actions, the latest one first, so that what is behind an action in the list
is its past.
-/

namespace HttpAudit

/-- The pipelines of a process, and the switch that all of them obey. -/
structure Fleet where
  /-- The switch of the process. -/
  switch : Switch := {}
  /-- The pipelines, in the order in which they were created. -/
  pipelines : List Pipeline := []

namespace Fleet

/-! ## Actions -/

/-- What can be done in a process. The pipelines are counted from zero. -/
inductive Action where
  /-- Creates a pipeline. -/
  | create (target : Target) (fallback : Option String) (settings : DeliverySettings)
  /-- Hands over a message, if there is one. -/
  | submit (index : Nat) (message : Option String)
  /-- Enables a pipeline. -/
  | enable (index : Nat)
  /-- Disables a pipeline. -/
  | disable (index : Nat)
  /-- Ends a delivery. -/
  | complete (index place : Nat) (reply : Reply)
  /-- Waits in the line until nothing runs. -/
  | await (index : Nat)
  /-- Waits until nothing runs, while the network replies to all deliveries. -/
  | drain (index : Nat) (network : Request → Reply)
  /-- Gives up a call that waits. -/
  | giveUp (index place : Nat)
  /-- Turns the switch off. -/
  | turnOff
  /-- Turns the switch on, unless it cannot be. -/
  | turnOn
  /-- Says whether the switch is off for good. -/
  | setHard (hard : Bool)

/-- The fleet with one of its pipelines changed. -/
def change (f : Fleet) (index : Nat) (step : Pipeline → Pipeline) : Fleet :=
  { f with pipelines := f.pipelines.modify index step }

/-- The fleet after an action. -/
def perform (f : Fleet) : Action → Fleet
  | .create target fallback settings =>
    { f with pipelines := f.pipelines ++ [Pipeline.create target fallback settings] }
  | .submit index message => f.change index (·.submit f.switch message)
  | .enable index => f.change index Pipeline.enable
  | .disable index => f.change index Pipeline.disable
  | .complete index place reply => f.change index (·.complete place reply)
  | .await index => f.change index (·.await .drain)
  | .drain index network => f.change index (·.drain network)
  | .giveUp index place => f.change index (·.giveUp place)
  | .turnOff => { f with switch := f.switch.disable }
  | .turnOn => { f with switch := f.switch.enable }
  | .setHard hard => { f with switch := f.switch.setHardDisabled hard }

/-- The fleet of a process after a history. -/
def after : List Action → Fleet
  | [] => {}
  | action :: past => (after past).perform action

/-! ## What a history says -/

/-- Whether the configuration has turned the switch off for good: what it said last counts. -/
def isHard : List Action → Bool
  | [] => false
  | .setHard hard :: _ => hard
  | _ :: past => isHard past

/-- Whether the switch is on. It goes off when it is turned off and when the configuration says so,
it goes on when it is turned on while the configuration does not forbid it, and nothing else changes
it. -/
def isOn : List Action → Bool
  | [] => true
  | .turnOff :: _ => false
  | .setHard true :: _ => false
  | .turnOn :: past => isOn past || !isHard past
  | _ :: past => isOn past

/-- The flag of a pipeline after a history since it was created: the one that it had at first, until
it is enabled or disabled. -/
def flag (index : Nat) (initial : Bool) : List Action → Bool
  | [] => initial
  | .enable i :: past => if i = index then true else flag index initial past
  | .disable i :: past => if i = index then false else flag index initial past
  | _ :: past => flag index initial past

/-- The messages of a history that get through to the queue of a pipeline, which was `created` in
the way that the first part of the history ends: those that are handed over to the pipeline while
its flag is set and the switch is on, unless messages are not sent at all. -/
def accepted (index : Nat) (settings : DeliverySettings) (created : List Action) :
    List Action → List String
  | [] => []
  | .submit i (some message) :: past =>
    if i = index ∧ flag index settings.enabled past = true ∧ isOn (past ++ created) = true ∧
        settings.skipSubmission = false then
      accepted index settings created past ++ [message]
    else accepted index settings created past
  | _ :: past => accepted index settings created past

/-! ## The switch -/

/-- The switch is as the history says. -/
lemma switch_after (past : List Action) : (after past).switch = ⟨!isOn past, isHard past⟩ := by
  induction past with
  | nil => rfl
  | cons action past ih =>
    cases action with
    | turnOff => simp [after, perform, ih, Switch.disable, isOn, isHard]
    | turnOn =>
      cases hhard : isHard past <;>
        simp [after, perform, ih, Switch.enable, isOn, isHard, hhard]
    | setHard hard =>
      cases hard <;> simp [after, perform, ih, Switch.setHardDisabled, isOn, isHard]
    | _ => exact ih

/-- Loggers may work if the history says that the switch is on. -/
lemma isEnabled_after (past : List Action) : (after past).switch.isEnabled = isOn past := by
  rw [switch_after, Switch.isEnabled, Bool.not_not]

/-- While the configuration forbids it, the switch is off. -/
lemma isOn_of_isHard {past : List Action} (h : isHard past = true) : isOn past = false := by
  induction past with
  | nil => cases h
  | cons action past ih =>
    cases action with
    | turnOff => rfl
    | turnOn =>
      have hpast : isHard past = true := h
      rw [isOn, ih hpast, hpast]
      rfl
    | setHard hard =>
      obtain rfl : hard = true := h
      rfl
    | _ => exact ih h

/-- What the configuration forbids stays forbidden until it allows it. -/
lemma isHard_append {past more : List Action} (h : isHard past = true)
    (hmore : .setHard false ∉ more) : isHard (more ++ past) = true := by
  induction more with
  | nil => exact h
  | cons action more ih =>
    cases action with
    | setHard hard =>
      cases hard with
      | false => exact absurd List.mem_cons_self hmore
      | true => rfl
    | _ => exact ih (List.not_mem_of_not_mem_cons hmore)

/-- Until the configuration allows it, nothing turns the switch on. -/
lemma isOn_append {past more : List Action} (h : isHard past = true)
    (hmore : .setHard false ∉ more) : isOn (more ++ past) = false :=
  isOn_of_isHard (isHard_append h hmore)

/-! ## A pipeline with a queue -/

/-- A pipeline with a queue that holds the given messages. Nothing runs, and nobody waits but to
drain it. -/
structure Holds (skip enabled : Bool) (messages : List String) (p : Pipeline) : Prop where
  /-- Messages go to the queue. -/
  destination_eq : p.destination = .queue
  /-- Whether messages are not sent at all. -/
  skip_eq : p.skipSubmission = skip
  /-- The flag of the pipeline. -/
  enabled_eq : p.enabled = enabled
  /-- The queue holds the messages, and is read from. -/
  queue_eq : p.queue = ⟨messages, true⟩
  /-- All messages count as delivered. -/
  successes_eq : p.successes = messages.length
  /-- None counts as lost. -/
  failures_eq : p.failures = 0
  /-- No delivery runs. -/
  running_eq : p.running = []
  /-- No delivery waits. -/
  waiting_eq : ∀ waiter ∈ p.waiting, waiter = .drain

namespace Holds

/-- A new pipeline with a queue holds nothing. -/
lemma create (fallback : Option String) (settings : DeliverySettings) :
    Holds settings.skipSubmission settings.enabled []
      (Pipeline.create .queue fallback settings) where
  destination_eq := rfl
  skip_eq := rfl
  enabled_eq := Bool.and_true _
  queue_eq := rfl
  successes_eq := rfl
  failures_eq := rfl
  running_eq := rfl
  waiting_eq := by simp [Pipeline.create]

variable {skip enabled : Bool} {messages : List String} {p : Pipeline}
  (h : Holds skip enabled messages p)

include h

/-- Getting in line to drain the pipeline. -/
lemma join : Holds skip enabled messages (p.join .drain) := by
  refine { h with waiting_eq := fun waiter hwaiter => ?_ }
  rcases List.mem_append.mp hwaiter with hwaiter | hwaiter
  · exact h.waiting_eq waiter hwaiter
  · exact List.mem_singleton.mp hwaiter

/-- Leaving the line. -/
lemma leave (place : Nat) : Holds skip enabled messages (p.leave place) :=
  { h with
    waiting_eq := fun waiter hwaiter => h.waiting_eq waiter (List.mem_of_mem_eraseIdx hwaiter) }

/-- Giving permits back. -/
lemma giveAllBack : Holds skip enabled messages p.giveAllBack := { h with }

/-- Serving somebody in the line, who can only be there to drain the pipeline. -/
lemma serve (place : Nat) : Holds skip enabled messages (p.serve place) := by
  unfold Pipeline.serve
  split
  · exact h
  · next request hwaiter =>
    cases h.waiting_eq _ (List.mem_of_getElem? hwaiter)
  · exact { h.leave place with }

/-- Serving those at the head of the line. -/
lemma serveUpTo (count : Nat) : Holds skip enabled messages (Pipeline.serveUpTo count p) := by
  induction count generalizing p with
  | zero => exact h
  | succ count ih =>
    unfold Pipeline.serveUpTo
    split
    · exact h
    · split
      · exact ih (h.serve 0).giveAllBack
      · exact h

/-- Waiting until nothing runs. -/
lemma await : Holds skip enabled messages (p.await .drain) := h.join.serveUpTo _

/-- Ending a delivery, of which there is none. -/
lemma complete (place : Nat) (reply : Reply) :
    Holds skip enabled messages (p.complete place reply) := by
  have hnone : p.answer place reply = p := by
    rw [Pipeline.answer, h.running_eq]
    rfl
  rw [Pipeline.complete, hnone]
  exact h.giveAllBack.serveUpTo _

/-- Draining the pipeline, of which no delivery runs. -/
lemma drain (network : Request → Reply) : Holds skip enabled messages (p.drain network) := by
  have hall : ∀ (count : Nat) {q : Pipeline}, Holds skip enabled messages q →
      q.completeAll network count = q := by
    intro count q hq
    cases count with
    | zero => rfl
    | succ count => rw [Pipeline.completeAll, hq.running_eq]
  rw [Pipeline.drain, hall _ h.await]
  exact h.await

/-- Enabling the pipeline, which can be. -/
lemma enable : Holds skip true messages p.enable := by
  have hcan : p.isEnableable = true := by rw [Pipeline.isEnableable, h.destination_eq]; rfl
  rw [Pipeline.enable, if_pos hcan]
  exact { h with enabled_eq := rfl }

/-- Disabling the pipeline. -/
lemma disable : Holds skip false messages p.disable := { h with enabled_eq := rfl }

/-- Giving up a call that waits. -/
lemma giveUp (place : Nat) : Holds skip enabled messages (p.giveUp place) :=
  (h.leave place).serveUpTo _

/-- Handing over a message, which gets through if the flag and the switch allow it and messages are
sent. -/
lemma submit (switch : Switch) (message : String) :
    Holds skip enabled
      (if enabled = true ∧ switch.isEnabled = true ∧ skip = false then messages ++ [message]
        else messages)
      (p.submit switch (some message)) := by
  by_cases hopen : enabled = true ∧ switch.isEnabled = true ∧ skip = false
  · rw [if_pos hopen]
    obtain ⟨rfl, hon, rfl⟩ := hopen
    have hsubmit : p.submit switch (some message) =
        { p with queue := p.queue.push message, successes := p.successes + 1 } := by
      simp [Pipeline.submit, Pipeline.isEnabled, h.enabled_eq, h.skip_eq, h.destination_eq, hon]
    rw [hsubmit]
    refine { h with queue_eq := ?_, successes_eq := ?_ }
    · show p.queue.push message = _
      rw [h.queue_eq]
      rfl
    · show p.successes + 1 = _
      rw [h.successes_eq, List.length_append]
      rfl
  · have hsubmit : p.submit switch (some message) = p := by
      rw [Pipeline.submit, Pipeline.isEnabled, h.enabled_eq, h.skip_eq, if_pos]
      by_contra hshut
      exact hopen (by simpa [and_assoc] using hshut)
    rw [if_neg hopen, hsubmit]
    exact h

end Holds

/-! ## Histories -/

/-- A pipeline with a queue after another one, or the same, has been changed. -/
lemma exists_change {f : Fleet} {index i : Nat} {p : Pipeline} {step : Pipeline → Pipeline}
    {skip enabled : Bool} {messages : List String} (hp : f.pipelines[index]? = some p)
    (hsame : i = index → Holds skip enabled messages (step p))
    (hother : i ≠ index → Holds skip enabled messages p) :
    ∃ q, (f.change i step).pipelines[index]? = some q ∧ Holds skip enabled messages q := by
  rw [change, List.getElem?_modify, hp]
  by_cases hi : i = index
  · exact ⟨step p, by simp [hi], hsame hi⟩
  · exact ⟨p, by simp [hi], hother hi⟩

/-- A pipeline with a queue that holds nothing yet holds, after any further history, the messages of
it that get through. -/
lemma holds_append {created : List Action} {index : Nat} {settings : DeliverySettings}
    {start : Pipeline} (hstart : (after created).pipelines[index]? = some start)
    (hnew : Holds settings.skipSubmission settings.enabled [] start) (later : List Action) :
    ∃ p, (after (later ++ created)).pipelines[index]? = some p ∧
      Holds settings.skipSubmission (flag index settings.enabled later)
        (accepted index settings created later) p := by
  induction later with
  | nil => exact ⟨start, hstart, hnew⟩
  | cons action later ih =>
    obtain ⟨p, hp, h⟩ := ih
    cases action with
    | create target other others =>
      refine ⟨p, ?_, h⟩
      exact (List.getElem?_append_left (List.getElem?_eq_some_iff.mp hp).1).trans hp
    | submit i message =>
      cases message with
      | none => exact exists_change hp (fun _ => h) (fun _ => h)
      | some message =>
        refine exists_change hp (fun hi => ?_) (fun hi => ?_)
        · have hsubmit := h.submit (after (later ++ created)).switch message
          rw [isEnabled_after] at hsubmit
          simp only [accepted, hi, true_and]
          exact hsubmit
        · rw [accepted, if_neg fun hall => hi hall.1]
          exact h
    | enable i =>
      refine exists_change hp (fun hi => ?_) (fun hi => ?_)
      · rw [flag, if_pos hi]
        exact h.enable
      · rw [flag, if_neg hi]
        exact h
    | disable i =>
      refine exists_change hp (fun hi => ?_) (fun hi => ?_)
      · rw [flag, if_pos hi]
        exact h.disable
      · rw [flag, if_neg hi]
        exact h
    | complete i place reply =>
      exact exists_change hp (fun _ => h.complete place reply) (fun _ => h)
    | await i => exact exists_change hp (fun _ => h.await) (fun _ => h)
    | drain i network => exact exists_change hp (fun _ => h.drain network) (fun _ => h)
    | giveUp i place => exact exists_change hp (fun _ => h.giveUp place) (fun _ => h)
    | turnOff | turnOn | setHard hard => exact ⟨p, hp, h⟩

/-- While the configuration forbids it, no message gets through. -/
lemma accepted_append {index : Nat} {settings : DeliverySettings} {created since more : List Action}
    (h : isHard (since ++ created) = true) (hmore : .setHard false ∉ more) :
    accepted index settings created (more ++ since) = accepted index settings created since := by
  induction more with
  | nil => rfl
  | cons action more ih =>
    have hrest := List.not_mem_of_not_mem_cons hmore
    rw [← ih hrest]
    cases action with
    | submit i message =>
      cases message with
      | none => rfl
      | some message =>
        have hoff : isOn ((more ++ since) ++ created) = false := by
          rw [List.append_assoc]
          exact isOn_append h hrest
        simp only [List.cons_append, accepted, hoff, Bool.false_eq_true, false_and, and_false,
          if_false]
    | _ => rfl

/-- **A queue holds what gets through.** Take any history of a process, in which at some point a
pipeline with a queue is created. Afterwards its queue holds, in the order in which they were handed
over and each one once, the messages that were handed over to this pipeline while its own flag was
set, the switch was on and messages were sent at all. As many count as delivered, and none as lost.
The switch is as the history says: the configuration's word that it is off for good holds against
everything that turns it on. From such a word until the configuration takes it back no pipeline is
enabled, and the queue stays as it is.

**Proof sketch.** Induction on the history since the pipeline was created. What an action does to
the pipeline depends on its state and on the switch, and both are as the history says
(`switch_after`, `Holds.submit`); actions on other pipelines do not touch it (`exists_change`).
Nothing can wait for the pipeline but to drain it, so that no delivery ever runs. -/
theorem queue_after (earlier later : List Action) (fallback : Option String)
    (settings : DeliverySettings) :
    let created := .create .queue fallback settings :: earlier
    let index := (after earlier).pipelines.length
    ∃ p, (after (later ++ created)).pipelines[index]? = some p ∧
      p.hasQueue = true ∧
      p.queue.messages = accepted index settings created later ∧
      p.successes = p.queue.messages.length ∧ p.failures = 0 ∧
      (after (later ++ created)).switch = ⟨!isOn (later ++ created), isHard (later ++ created)⟩ ∧
      ∀ since more, later = more ++ since → isHard (since ++ created) = true →
        .setHard false ∉ more →
          p.queue.messages = accepted index settings created since ∧
            ∀ q ∈ (after (later ++ created)).pipelines,
              q.isEnabled (after (later ++ created)).switch = false := by
  intro created index
  have hstart : (after created).pipelines[index]? =
      some (Pipeline.create .queue fallback settings) := List.getElem?_concat_length
  obtain ⟨p, hp, h⟩ := holds_append hstart (.create fallback settings) later
  have hmessages : p.queue.messages = accepted index settings created later := by
    rw [h.queue_eq]
  refine ⟨p, hp, ?_, hmessages, ?_, h.failures_eq, switch_after _, ?_⟩
  · rw [Pipeline.hasQueue, h.destination_eq]
    rfl
  · rw [hmessages]
    exact h.successes_eq
  · rintro since more rfl hhard hmore
    refine ⟨hmessages.trans (accepted_append hhard hmore), fun q _ => ?_⟩
    rw [Pipeline.isEnabled, isEnabled_after, List.append_assoc, isOn_append hhard hmore,
      Bool.and_false]

/-- The second pipeline of a process is disabled for one of three messages. Then the configuration
turns the switch off for good, and a fourth message does not get through, although everything is
turned on again. -/
theorem queue_after_setHard :
    let created : List Action := [.create .queue none {}, .create .byDefault none {}]
    let since : List Action :=
      [.setHard true, .submit 1 (some "c"), .enable 1, .submit 1 (some "b"), .disable 1,
        .submit 1 (some "a")]
    let more : List Action := [.submit 1 (some "d"), .enable 1, .turnOn]
    isHard (since ++ created) = true ∧ .setHard false ∉ more ∧
      ∃ p, (after (more ++ since ++ created)).pipelines[1]? = some p ∧
        p.queue.messages = ["a", "c"] ∧ p.successes = 2 ∧
        p.isEnabled (after (more ++ since ++ created)).switch = false := by
  intro created since more
  have hmore : .setHard false ∉ more := by simp [more]
  obtain ⟨p, hp, -, -, hsuccesses, -, -, hforbidden⟩ :=
    queue_after [.create .byDefault none {}] (more ++ since) none {}
  obtain ⟨hmessages, hoff⟩ := hforbidden since more rfl rfl hmore
  refine ⟨rfl, hmore, p, hp, hmessages, ?_, hoff p (List.mem_of_getElem? hp)⟩
  rw [hsuccesses, hmessages]
  rfl

end Fleet

end HttpAudit
