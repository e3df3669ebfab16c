import HttpAudit.Delivery.Pipeline
import Mathlib.Tactic.Common

set_option relaxedAutoImplicit false
set_option autoImplicit false

/-!
# Interleavings of calls and deliveries

Calls on a pipeline come from many tasks, and deliveries run beside them. Here a process takes one
small step after the other: a call looks at a flag or gets in line, somebody in the line gets
permits, the network replies to a delivery, permits are given back. Nothing is said about the
order, so a run of such steps is an interleaving of any number of calls and deliveries.

## Main definitions

* `HttpAudit.Process` — a pipeline, the switch, and the calls that are under way.
* `HttpAudit.Process.Step` — what can happen next.
* `HttpAudit.Process.Run` — an interleaving, with its log.
* `HttpAudit.Process.Operation` — the whole operations of a pipeline.

## Main results

* `HttpAudit.Process.reaches_performAll` — whole operations, one after the other, are a run.

## Design

A step may serve anybody in the line for whom there are enough permits, not only its head, and
may turn the switch to any state. So there are more runs than a process can really have, and what
holds of all of them does not depend on how fair the line is.
-/

namespace HttpAudit

/-- A pipeline within its process, and the calls with a message that have yet to get in line. -/
structure Process where
  /-- The pipeline. -/
  pipeline : Pipeline
  /-- The switch of the process. -/
  switch : Switch
  /-- The messages of the calls that found the pipeline enabled and have yet to look at the
  switch. -/
  looking : List String := []
  /-- The messages of the calls that have passed all checks. -/
  entering : List String := []

namespace Process

/-! ## Steps -/

/-- What a step does, as it is written to the log. -/
inductive Event where
  /-- A call returns without effect. -/
  | ignored
  /-- A call finds the pipeline enabled. -/
  | looked (message : String)
  /-- A call finds the switch on as well. -/
  | passed (message : String)
  /-- Somebody gets in line. -/
  | joined (waiter : Waiter)
  /-- Somebody leaves the line. -/
  | gaveUp (waiter : Waiter)
  /-- Somebody in the line gets permits. -/
  | served (waiter : Waiter)
  /-- The network replies to a delivery. -/
  | answered (request : Request) (reply : Reply)
  /-- Permits are given back. -/
  | returned (permits : Nat)
  /-- The pipeline is enabled or disabled. -/
  | toggled
  /-- The switch is changed. -/
  | switched

/-- The process with another state of its pipeline. -/
def put (s : Process) (p : Pipeline) : Process := { s with pipeline := p }

/-- Whether a call that found the pipeline enabled goes on. -/
def goesOn (s : Process) : Bool := s.switch.isEnabled && !s.pipeline.skipSubmission

/-- What can happen next. -/
inductive Step (s : Process) : Event → Process → Prop
  /-- There is no message. -/
  | absent : Step s .ignored s
  /-- The pipeline is not enabled. -/
  | off (h : s.pipeline.enabled = false) : Step s .ignored s
  /-- The pipeline is enabled. -/
  | look (message : String) (h : s.pipeline.enabled = true) :
      Step s (.looked message) { s with looking := message :: s.looking }
  /-- The switch is off, or messages are not sent at all. -/
  | refuse (place : Nat) {message : String} (h : s.looking[place]? = some message)
      (hoff : s.goesOn = false) :
      Step s .ignored { s with looking := s.looking.eraseIdx place }
  /-- The switch is on, and messages are sent. -/
  | pass (place : Nat) {message : String} (h : s.looking[place]? = some message)
      (hon : s.goesOn = true) :
      Step s (.passed message)
        { s with looking := s.looking.eraseIdx place, entering := message :: s.entering }
  /-- A message waits to be delivered. -/
  | submit (place : Nat) {message : String} {endpoint : Endpoint}
      (h : s.entering[place]? = some message)
      (hto : s.pipeline.destination = .collector endpoint) :
      Step s (.joined (.delivery (endpoint.request s.pipeline.encoding message)))
        { s with
          entering := s.entering.eraseIdx place
          pipeline :=
            s.pipeline.join (.delivery (endpoint.request s.pipeline.encoding message)) }
  /-- Draining waits. -/
  | drain : Step s (.joined .drain) (s.put (s.pipeline.join .drain))
  /-- A call that waits is given up. -/
  | giveUp (place : Nat) {waiter : Waiter} (h : s.pipeline.waiting[place]? = some waiter) :
      Step s (.gaveUp waiter) (s.put (s.pipeline.leave place))
  /-- There are enough permits for somebody who waits. -/
  | serve (place : Nat) {waiter : Waiter} (h : s.pipeline.waiting[place]? = some waiter)
      (hfree : s.pipeline.canServe waiter = true) :
      Step s (.served waiter) (s.put (s.pipeline.serve place))
  /-- A delivery is over and is counted. -/
  | answer (place : Nat) (reply : Reply) {request : Request}
      (h : s.pipeline.running[place]? = some request) :
      Step s (.answered request reply) (s.put (s.pipeline.answer place reply))
  /-- Somebody who is done gives permits back. -/
  | giveBack (place : Nat) {permits : Nat} (h : s.pipeline.returning[place]? = some permits) :
      Step s (.returned permits) (s.put (s.pipeline.giveBack place))
  /-- The pipeline is enabled. -/
  | enable : Step s .toggled (s.put s.pipeline.enable)
  /-- The pipeline is disabled. -/
  | disable : Step s .toggled (s.put s.pipeline.disable)
  /-- The switch is changed. -/
  | switch (next : Switch) : Step s .switched { s with switch := next }

/-- An interleaving, with the events of its steps, in order. -/
inductive Run (start : Process) : List Event → Process → Prop
  /-- Nothing has happened yet. -/
  | nil : Run start [] start
  /-- One more step. -/
  | snoc {log : List Event} {s t : Process} {e : Event} (h : Run start log s) (hstep : Step s e t) :
      Run start (log ++ [e]) t

/-- Some interleaving leads from one state to another. -/
def Reaches (s t : Process) : Prop := ∃ log, Run s log t

/-- Nothing need happen. -/
lemma Reaches.refl (s : Process) : Reaches s s := ⟨[], .nil⟩

/-- A step is an interleaving. -/
lemma Step.reaches {s t : Process} {e : Event} (h : Step s e t) : Reaches s t :=
  ⟨[e], Run.snoc .nil h⟩

/-- Interleavings can be put one after the other. -/
lemma Reaches.trans {s t u : Process} (h : Reaches s t) (h' : Reaches t u) : Reaches s u := by
  obtain ⟨log, hlog⟩ := h
  obtain ⟨log', hlog'⟩ := h'
  induction hlog' with
  | nil => exact ⟨log, hlog⟩
  | snoc _ hstep ih =>
    obtain ⟨more, hmore⟩ := ih
    exact ⟨_, hmore.snoc hstep⟩

/-- What a step cannot change: where messages go, and how many permits there are. -/
lemma Step.settings {s t : Process} {e : Event} (h : Step s e t) :
    t.pipeline.destination = s.pipeline.destination ∧
      t.pipeline.maxInFlight = s.pipeline.maxInFlight := by
  cases h with
  | serve place h =>
    unfold put Pipeline.serve
    split <;> exact ⟨rfl, rfl⟩
  | answer place reply h =>
    unfold put Pipeline.answer
    split <;> exact ⟨rfl, rfl⟩
  | enable =>
    unfold put Pipeline.enable
    split <;> exact ⟨rfl, rfl⟩
  | _ => exact ⟨rfl, rfl⟩

/-- What no interleaving can change. -/
lemma Run.settings {s t : Process} {log : List Event} (h : Run s log t) :
    t.pipeline.destination = s.pipeline.destination ∧
      t.pipeline.maxInFlight = s.pipeline.maxInFlight := by
  induction h with
  | nil => exact ⟨rfl, rfl⟩
  | snoc _ hstep ih => exact ⟨hstep.settings.1.trans ih.1, hstep.settings.2.trans ih.2⟩

/-! ## Whole operations -/

/-- The whole operations of a pipeline and the switch of its process. -/
inductive Operation where
  /-- Hands over a message, if there is one. -/
  | submit (message : Option String)
  /-- Ends a delivery. -/
  | complete (place : Nat) (reply : Reply)
  /-- Waits in the line until nothing runs. -/
  | await
  /-- Waits until nothing runs, while the network replies to all deliveries. -/
  | drain (network : Request → Reply)
  /-- Gives up a call that waits. -/
  | giveUp (place : Nat)
  /-- Enables the pipeline. -/
  | enable
  /-- Disables the pipeline. -/
  | disable
  /-- Changes the switch. -/
  | switch (change : Switch → Switch)

/-- The process after an operation. -/
def perform (s : Process) : Operation → Process
  | .submit message => s.put (s.pipeline.submit s.switch message)
  | .complete place reply => s.put (s.pipeline.complete place reply)
  | .await => s.put (s.pipeline.await .drain)
  | .drain network => s.put (s.pipeline.drain network)
  | .giveUp place => s.put (s.pipeline.giveUp place)
  | .enable => s.put s.pipeline.enable
  | .disable => s.put s.pipeline.disable
  | .switch change => { s with switch := change s.switch }

/-- All who are done can give their permits back one after the other. -/
lemma reaches_giveAllBack (s : Process) : Reaches s (s.put s.pipeline.giveAllBack) := by
  obtain ⟨p, switch, looking, entering⟩ := s
  obtain ⟨permits, hpermits⟩ : ∃ permits, p.returning = permits := ⟨_, rfl⟩
  induction permits generalizing p with
  | nil =>
    have hdone : p.giveAllBack = p := by rw [Pipeline.giveAllBack, ← hpermits]
    rw [hdone]
    exact .refl _
  | cons n permits ih =>
    refine (@Step.giveBack _ 0 n (by simp [hpermits])).reaches.trans ?_
    exact ih (p.giveBack 0) (by simp [Pipeline.giveBack, hpermits])

/-- Those at the head of the line can be served one after the other. -/
lemma reaches_serveUpTo (count : Nat) (s : Process) :
    Reaches s (s.put (Pipeline.serveUpTo count s.pipeline)) := by
  induction count generalizing s with
  | zero => exact .refl s
  | succ count ih =>
    unfold Pipeline.serveUpTo
    split
    · exact .refl s
    · next waiter rest hwaiting =>
      split
      · next hfree =>
        have hserve := Step.serve 0 (by rw [hwaiting]; rfl) hfree
        exact (hserve.reaches.trans (reaches_giveAllBack _)).trans (ih _)
      · exact .refl s

/-- All who can be served can be served one after the other. -/
lemma reaches_settle (s : Process) : Reaches s (s.put s.pipeline.settle) :=
  reaches_serveUpTo s.pipeline.waiting.length s

/-- Draining can get in line, and then be served with the others. -/
lemma reaches_await (s : Process) : Reaches s (s.put (s.pipeline.await .drain)) :=
  Step.drain.reaches.trans (reaches_settle _)

/-- Ending a delivery takes a reply, the return of a permit, and service to others. -/
lemma reaches_complete (s : Process) (place : Nat) (reply : Reply) :
    Reaches s (s.put (s.pipeline.complete place reply)) := by
  have hanswer : Reaches s (s.put (s.pipeline.answer place reply)) := by
    cases h : s.pipeline.running[place]? with
    | none =>
      have hsame : s.pipeline.answer place reply = s.pipeline := by
        simp only [Pipeline.answer, h]
      rw [hsame]
      exact .refl s
    | some request => exact (Step.answer place reply h).reaches
  exact (hanswer.trans (reaches_giveAllBack _)).trans (reaches_settle _)

/-- Deliveries can be ended one after the other. -/
lemma reaches_completeAll (network : Request → Reply) (count : Nat) (s : Process) :
    Reaches s (s.put (s.pipeline.completeAll network count)) := by
  induction count generalizing s with
  | zero => exact .refl s
  | succ count ih =>
    unfold Pipeline.completeAll
    split
    · exact .refl s
    · exact (reaches_complete s 0 _).trans (ih _)

/-- Handing over a message to a collector takes a look at both flags, and then a place in the
line. -/
lemma reaches_submit {s : Process} {endpoint : Endpoint}
    (hto : s.pipeline.destination = .collector endpoint) (message : Option String) :
    Reaches s (s.put (s.pipeline.submit s.switch message)) := by
  cases message with
  | none => exact .refl s
  | some message =>
    unfold Pipeline.submit Pipeline.isEnabled
    by_cases hpass : s.pipeline.enabled = true ∧ s.goesOn = true
    · obtain ⟨henabled, hon⟩ := hpass
      have hgate := hon
      simp only [goesOn, Bool.and_eq_true, Bool.not_eq_true'] at hgate
      simp only [henabled, hgate, hto]
      have hpass := @Step.pass { s with looking := message :: s.looking } 0 message rfl hon
      have hjoin := @Step.submit { s with entering := message :: s.entering } 0 message _ rfl hto
      refine (Step.look message henabled).reaches.trans (hpass.reaches.trans ?_)
      exact hjoin.reaches.trans (reaches_settle _)
    · have hgate : (!(s.pipeline.enabled && s.switch.isEnabled) || s.pipeline.skipSubmission) =
          true := by
        by_contra hopen
        simp [goesOn] at hpass hopen
        exact absurd hopen.2 (by simpa using hpass hopen.1.1 hopen.1.2)
      simp only [hgate, if_true]
      exact .refl s

/-- An operation on a pipeline with a collector can be done in small steps. -/
lemma reaches_perform {s : Process} {endpoint : Endpoint}
    (hto : s.pipeline.destination = .collector endpoint) (operation : Operation) :
    Reaches s (s.perform operation) := by
  cases operation with
  | submit message => exact reaches_submit hto message
  | complete place reply => exact reaches_complete s place reply
  | await => exact reaches_await s
  | drain network => exact (reaches_await s).trans (reaches_completeAll network _ _)
  | giveUp place =>
    refine Reaches.trans ?_ (reaches_settle (s.put (s.pipeline.leave place)))
    cases h : s.pipeline.waiting[place]? with
    | none =>
      have hsame : s.pipeline.leave place = s.pipeline := by
        rw [Pipeline.leave, List.eraseIdx_of_length_le (List.getElem?_eq_none_iff.mp h)]
      rw [hsame]
      exact .refl s
    | some waiter => exact (Step.giveUp place h).reaches
  | enable => exact Step.enable.reaches
  | disable => exact Step.disable.reaches
  | switch change => exact (Step.switch (change s.switch)).reaches

/-- **Operations are interleavings.** Any whole operations on a pipeline with a collector, one
after the other, lead to a state that some interleaving of small steps leads to. -/
theorem reaches_performAll {s : Process} {endpoint : Endpoint}
    (hto : s.pipeline.destination = .collector endpoint) (operations : List Operation) :
    Reaches s (operations.foldl perform s) := by
  induction operations generalizing s with
  | nil => exact .refl s
  | cons operation operations ih =>
    obtain ⟨log, hlog⟩ := reaches_perform hto operation
    exact Reaches.trans ⟨log, hlog⟩ (ih (hlog.settings.1.trans hto))

end Process

end HttpAudit
