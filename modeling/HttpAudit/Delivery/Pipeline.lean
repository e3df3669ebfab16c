import HttpAudit.Delivery.Queue
import HttpAudit.Delivery.Request
import HttpAudit.Delivery.Switch
import HttpAudit.Delivery.Target

/-!
# Pipelines

A pipeline takes messages to their destination. A queue takes them at once. Deliveries to a
collector run side by side, up to a given number; those beyond wait for their turn, first come
first served. Whatever becomes of a message shows in two counters only.

## Main definitions

* `HttpAudit.Pipeline` — a pipeline with its state.
* `HttpAudit.Pipeline.create` — a new pipeline.
* `HttpAudit.Pipeline.serve` — gives permits to somebody who waits.
* `HttpAudit.Pipeline.submit` — hands over a message.
* `HttpAudit.Pipeline.complete` — ends a delivery.
* `HttpAudit.Pipeline.drain` — waits until no delivery runs.

## Design

There are as many permits as deliveries may run. A delivery has one while it runs and counts its
outcome before it gives the permit back. Draining is waiting in the same line for all permits at
once, which are given back at once. Whoever is at the head of the line gets all permits that are
free until they are enough.

The small operations (`join`, `serve`, `answer`, `giveBack`) are those between which others may
come in. The large ones (`submit`, `complete`, `drain`) are made of them.
-/

namespace HttpAudit

/-- How a pipeline behaves. -/
structure DeliverySettings where
  /-- Whether it starts enabled. -/
  enabled : Bool := true
  /-- Whether messages may go to a URL without encryption. -/
  allowHttpUrl : Bool := false
  /-- Whether messages are sent as they are. -/
  skipCompression : Bool := false
  /-- Whether messages are not sent at all. -/
  skipSubmission : Bool := false
  /-- The greatest number of deliveries that run at the same time. -/
  maxInFlight : Nat := 128
  /-- The name of the program. -/
  agent : String := "http_logger.rs"
  /-- The version of the program. -/
  version : String := "0.1.0"
  deriving DecidableEq, Repr

/-- Where a pipeline takes messages to. -/
inductive Destination where
  /-- The queue of the pipeline. -/
  | queue
  /-- A collector. -/
  | collector (endpoint : Endpoint)
  /-- Nowhere. -/
  | unusable
  deriving DecidableEq, Repr

/-- Somebody who waits for a pipeline. -/
inductive Waiter where
  /-- For a delivery to be admitted. -/
  | delivery (request : Request)
  /-- For all deliveries to end. -/
  | drain
  deriving DecidableEq, Repr

/-- A pipeline with its state. -/
structure Pipeline where
  /-- The URL of the collector, if one is given. -/
  url : Option String
  /-- Where messages go. -/
  destination : Destination
  /-- Whether messages are sent as they are. -/
  skipCompression : Bool
  /-- Whether messages are not sent at all. -/
  skipSubmission : Bool
  /-- The greatest number of deliveries that run at the same time. -/
  maxInFlight : Nat
  /-- Whether the pipeline itself is enabled. -/
  enabled : Bool
  /-- The queue. -/
  queue : MessageQueue := {}
  /-- The deliveries that run. -/
  running : List Request := []
  /-- The permits that those who are done have yet to give back. -/
  returning : List Nat := []
  /-- Those who wait, in order. -/
  waiting : List Waiter := []
  /-- The deliveries that have ended, with their outcome, in order. -/
  ended : List (Request × Reply) := []
  /-- The number of messages that were delivered. -/
  successes : Nat := 0
  /-- The number of messages that were not. -/
  failures : Nat := 0
  deriving DecidableEq, Repr

/-- Where messages for a target go. -/
def Destination.ofTarget (target : Target) (fallback : Option String)
    (settings : DeliverySettings) : Destination :=
  match target with
  | .queue => queue
  | target =>
    let endpoint? := (target.url? fallback).bind
      (Endpoint.ofUrl? settings.allowHttpUrl settings.agent settings.version)
    match endpoint? with
    | some endpoint => collector endpoint
    | none => unusable

/-- The greatest number of permits. It is also the greatest number that can be asked for at once. -/
def Pipeline.maxPermits : Nat := Nat.pow 2 32 - 1

/-- The number of permits that somebody who waits asks for. Draining asks for all, as far as they
can be asked for at once. -/
def Waiter.demand (capacity : Nat) : Waiter → Nat
  | delivery _ => 1
  | drain => min capacity Pipeline.maxPermits

namespace Pipeline

/-- The number of deliveries that may run, which is at least one. -/
def clampPermits (n : Nat) : Nat := max 1 (min n maxPermits)

/-- A new pipeline. If its destination is not usable it is disabled for ever. -/
def create (target : Target) (fallback : Option String) (settings : DeliverySettings) : Pipeline :=
  let destination := .ofTarget target fallback settings
  { url := target.url? fallback
    destination
    skipCompression := settings.skipCompression
    skipSubmission := settings.skipSubmission
    maxInFlight := clampPermits settings.maxInFlight
    enabled := settings.enabled && destination != .unusable }

/-- Whether the pipeline can be enabled. -/
def isEnableable (p : Pipeline) : Bool := p.destination != .unusable

/-- Whether messages go to a queue. -/
def hasQueue (p : Pipeline) : Bool := p.destination == .queue

/-- Whether the pipeline and the switch of the process are both enabled. -/
def isEnabled (p : Pipeline) (switch : Switch) : Bool := p.enabled && switch.isEnabled

/-- The pipeline enabled, if it can be. -/
def enable (p : Pipeline) : Pipeline :=
  if p.isEnableable then { p with enabled := true } else p

/-- The pipeline disabled. -/
def disable (p : Pipeline) : Pipeline := { p with enabled := false }

/-- The number of permits that are taken. -/
def taken (p : Pipeline) : Nat := p.running.length + p.returning.foldr (· + ·) 0

/-- Whether there are enough permits for the one who waits. -/
def canServe (p : Pipeline) (waiter : Waiter) : Bool :=
  p.taken + waiter.demand p.maxInFlight ≤ p.maxInFlight

/-- The pipeline with one more in the line. -/
def join (p : Pipeline) (waiter : Waiter) : Pipeline := { p with waiting := p.waiting ++ [waiter] }

/-- The pipeline after the one at a place in the line has left it. -/
def leave (p : Pipeline) (place : Nat) : Pipeline :=
  { p with waiting := p.waiting.eraseIdx place }

/-- The pipeline after the one at a place in the line has got permits. A delivery starts to run;
draining is done with that. -/
def serve (p : Pipeline) (place : Nat) : Pipeline :=
  match p.waiting[place]? with
  | none => p
  | some (.delivery request) => { p.leave place with running := p.running ++ [request] }
  | some .drain =>
    { p.leave place with returning := p.returning ++ [Waiter.drain.demand p.maxInFlight] }

/-- The pipeline after one of those who are done has given the permits back. -/
def giveBack (p : Pipeline) (place : Nat) : Pipeline :=
  { p with returning := p.returning.eraseIdx place }

/-- The pipeline after all of those who are done have given their permits back. -/
def giveAllBack (p : Pipeline) : Pipeline := { p with returning := [] }

/-- The pipeline after those at the head of the line, up to a given number, have been served. -/
def serveUpTo : (count : Nat) → Pipeline → Pipeline
  | 0, p => p
  | count + 1, p =>
    match p.waiting with
    | [] => p
    | waiter :: _ =>
      if p.canServe waiter then serveUpTo count (p.serve 0).giveAllBack else p

/-- The pipeline after all who can be served have been. -/
def settle (p : Pipeline) : Pipeline := serveUpTo p.waiting.length p

/-- The pipeline with one more in the line, who may be served. -/
def await (p : Pipeline) (waiter : Waiter) : Pipeline := (p.join waiter).settle

/-- The encoding of the messages that are sent. -/
def encoding (p : Pipeline) : Encoding :=
  if p.skipCompression then .identity else .deflated

/-- Hands over a message. Without a message, while disabled, and if messages are not sent at all,
nothing happens. -/
def submit (p : Pipeline) (switch : Switch) : Option String → Pipeline
  | none => p
  | some message =>
    if !p.isEnabled switch || p.skipSubmission then p
    else
      match p.destination with
      | .queue => { p with queue := p.queue.push message, successes := p.successes + 1 }
      | .collector endpoint => p.await (.delivery (endpoint.request p.encoding message))
      | .unusable => p

/-- The pipeline after the one at a place in the line has given up. -/
def giveUp (p : Pipeline) (place : Nat) : Pipeline := (p.leave place).settle

/-- The pipeline after the network has replied to one of the running deliveries, which has been
counted. -/
def answer (p : Pipeline) (place : Nat) (reply : Reply) : Pipeline :=
  match p.running[place]? with
  | none => p
  | some request =>
    { p with
      running := p.running.eraseIdx place
      returning := p.returning ++ [1]
      ended := p.ended ++ [(request, reply)]
      successes := p.successes + (if reply.isSuccess then 1 else 0)
      failures := p.failures + (if reply.isSuccess then 0 else 1) }

/-- The pipeline after one of the running deliveries has ended. -/
def complete (p : Pipeline) (place : Nat) (reply : Reply) : Pipeline :=
  (p.answer place reply).giveAllBack.settle

/-- The pipeline after `count` deliveries, oldest first, have ended as the network replies. -/
def completeAll (network : Request → Reply) : (count : Nat) → Pipeline → Pipeline
  | 0, p => p
  | count + 1, p =>
    match p.running with
    | [] => p
    | request :: _ => completeAll network count (p.complete 0 (network request))

/-- Waits until no delivery runs. -/
def drain (p : Pipeline) (network : Request → Reply) : Pipeline :=
  (p.await .drain).completeAll network (p.running.length + p.waiting.length)

/-- The number of permits that anybody could have at once. Those who wait leave none. -/
def available (p : Pipeline) : Nat :=
  if p.waiting.isEmpty then p.maxInFlight - p.taken else 0

/-- The number of deliveries that run, as far as the permits tell. -/
def inFlight (p : Pipeline) : Nat := p.maxInFlight - p.available

/-- A description of the pipeline. -/
def describe (p : Pipeline) : String :=
  let url := match p.url with
    | some url => "Some(" ++ Text.quoted url ++ ")"
    | none => "None"
  "DeliveryPipeline \x7b enabled: " ++ toString p.enabled ++
    ", enableable: " ++ toString p.isEnableable ++ ", url: " ++ url ++
    ", queue: " ++ toString p.hasQueue ++ ", max_in_flight: " ++ toString p.maxInFlight ++
    ", counters: Counters \x7b successes: " ++ toString p.successes ++
    ", failures: " ++ toString p.failures ++ " \x7d \x7d"

end Pipeline

end HttpAudit
