import HttpAudit.Delivery.Pipeline
import HttpAudit.Proofs.Delivery.Accounts
import HttpAudit.Proofs.Message.Text
import HttpAudit.Proofs.Text.Utf8
import HttpAudit.Proofs.Zlib.RoundTrip

set_option relaxedAutoImplicit false
set_option autoImplicit false

/-!
# A single delivery

A new pipeline that is handed over at most one message and drained has made at most one request,
which has been counted when draining is done. The body of the request is the message again once it
is decoded.

## Main definitions

* `HttpAudit.Request.message?` — the message that a request delivers.
* `HttpAudit.Pipeline.IsIdle` — nothing runs or waits.
* `HttpAudit.Pipeline.after` — a pipeline after a delivery has ended.

## Main results

* `HttpAudit.Endpoint.message?_request` — a request delivers the message that it is made of.
* `HttpAudit.Pipeline.IsIdle.drain_running` — draining waits until a delivery has been counted.
* `HttpAudit.Pipeline.IsIdle.drain_submit` — what becomes of a single message.
-/

namespace HttpAudit

/-! ## The body of a request -/

/-- Encoded bytes are decoded. -/
lemma Encoding.decode?_encode (encoding : Encoding) (bytes : List UInt8) :
    encoding.decode? (encoding.encode bytes) = some bytes := by
  cases encoding with
  | identity => rfl
  | deflated => exact Zlib.decompress_compress bytes

/-- The message that a request delivers: its body, decoded and read as a text. -/
def Request.message? (r : Request) : Option Message := do
  let bytes ← r.encoding.decode? r.body
  let text ← Text.Utf8.decode? bytes
  Message.ofJson? (.ofList text)

/-- A request delivers the message that it is made of. -/
lemma Endpoint.message?_request (e : Endpoint) (encoding : Encoding) (m : Message) :
    (e.request encoding m.toJson).message? = some m := by
  simp only [Request.message?, Endpoint.request, Encoding.decode?_encode,
    Text.Utf8.decode?_encode, Option.bind_eq_bind, Option.bind_some, String.ofList_toList,
    Message.ofJson?_toJson]

/-! ## Draining -/

namespace Pipeline

/-- Nothing runs, nobody waits, and all permits have been given back. -/
structure IsIdle (p : Pipeline) : Prop where
  /-- No delivery runs. -/
  running : p.running = []
  /-- All permits are there. -/
  returning : p.returning = []
  /-- Nobody waits. -/
  waiting : p.waiting = []
  /-- There is a permit. -/
  pos : 0 < p.maxInFlight
  /-- All permits can be asked for at once. -/
  le : p.maxInFlight ≤ maxPermits

/-- A new pipeline is idle. -/
lemma isIdle_create (target : Target) (fallback : Option String) (settings : DeliverySettings) :
    (create target fallback settings).IsIdle where
  running := rfl
  returning := rfl
  waiting := rfl
  pos := (Process.clampPermits_bounds settings.maxInFlight).1
  le := (Process.clampPermits_bounds settings.maxInFlight).2

variable {p : Pipeline}

/-- The only one in the line is served if there are enough permits. -/
lemma await_eq {waiter : Waiter} (h : p.waiting = []) :
    p.await waiter =
      if p.canServe waiter then ((p.join waiter).serve 0).giveAllBack else p.join waiter := by
  have hjoin : (p.join waiter).waiting = [waiter] := by simp [join, h]
  have hserve : (p.join waiter).canServe waiter = p.canServe waiter := rfl
  rw [await, settle, hjoin, List.length_singleton, serveUpTo, hjoin]
  simp only [hserve]
  split
  · rfl
  · rfl

/-- A delivery that comes to an idle pipeline runs at once. -/
lemma IsIdle.await_delivery (h : p.IsIdle) (request : Request) :
    p.await (.delivery request) = { p with running := [request] } := by
  have hserve : p.canServe (.delivery request) = true := by
    have hpos := h.pos
    simp only [canServe, taken, h.running, h.returning, Waiter.demand, List.length_nil,
      List.foldr_nil, decide_eq_true_eq]
    omega
  rw [await_eq h.waiting, if_pos hserve]
  simp [serve, join, leave, giveAllBack, h.waiting, h.running, h.returning]

/-- An idle pipeline need not be waited for. -/
lemma IsIdle.await_drain (h : p.IsIdle) : p.await .drain = p := by
  have hserve : p.canServe .drain = true := by
    simp only [canServe, taken, h.running, h.returning, Waiter.demand, List.length_nil,
      List.foldr_nil, decide_eq_true_eq, Nat.min_eq_left h.le]
    omega
  have hreturning := h.returning
  have hwaiting := h.waiting
  rw [await_eq h.waiting, if_pos hserve]
  cases p
  simp only at hreturning hwaiting
  subst hreturning hwaiting
  rfl

/-- Nothing happens while an idle pipeline is drained. -/
lemma IsIdle.drain (h : p.IsIdle) (network : Request → Reply) : p.drain network = p := by
  rw [Pipeline.drain, h.await_drain, h.running, h.waiting]
  rfl

/-- The pipeline after a delivery has ended and been counted. -/
def after (p : Pipeline) (request : Request) (reply : Reply) : Pipeline :=
  { p with
    ended := p.ended ++ [(request, reply)]
    successes := p.successes + (if reply.isSuccess then 1 else 0)
    failures := p.failures + (if reply.isSuccess then 0 else 1) }

/-- Draining a pipeline in which one delivery runs waits for it to end and to be counted.

**Proof sketch.** The one who drains asks for all permits, of which the delivery has one. When it
has ended and given its permit back, the pipeline is idle, and the one who drains is served. -/
lemma IsIdle.drain_running (h : p.IsIdle) (request : Request) (network : Request → Reply) :
    ({ p with running := [request] } : Pipeline).drain network =
      p.after request (network request) := by
  have hwait : ({ p with running := [request] } : Pipeline).await .drain =
      { p with running := [request], waiting := [.drain] } := by
    have hserve : ¬({ p with running := [request] } : Pipeline).canServe .drain = true := by
      simp only [canServe, taken, h.returning, Waiter.demand, List.length_singleton,
        List.foldr_nil, decide_eq_true_eq, Nat.min_eq_left h.le]
      omega
    have hw : ({ p with running := [request] } : Pipeline).waiting = [] := h.waiting
    rw [await_eq hw, if_neg hserve, join, hw]
    rfl
  have hidle : (p.after request (network request)).IsIdle := ⟨h.1, h.2, h.3, h.4, h.5⟩
  rw [Pipeline.drain, hwait]
  simp only [List.length_singleton, h.waiting, List.length_nil, completeAll]
  have hanswer : (({ p with running := [request], waiting := [.drain] } : Pipeline).answer 0
      (network request)).giveAllBack = (p.after request (network request)).join .drain := by
    simp [answer, giveAllBack, after, join, h.running, h.returning, h.waiting]
  rw [complete, hanswer]
  exact hidle.await_drain

/-- A pipeline that is idle at first and is handed over a message, or none, has made one request at
most when it has been drained. -/
lemma IsIdle.drain_submit (h : p.IsIdle) {switch : Switch} {endpoint : Endpoint}
    (hdestination : p.destination = .collector endpoint) (henabled : p.isEnabled switch = true)
    (message : Option String) (network : Request → Reply) :
    (p.submit switch message).drain network =
      match message with
      | some text =>
        if p.skipSubmission then p
        else
          let request := endpoint.request p.encoding text
          p.after request (network request)
      | none => p := by
  cases message with
  | none => exact h.drain network
  | some text =>
    rw [submit]
    by_cases hskip : p.skipSubmission = true
    · simp only [henabled, hskip, Bool.not_true, Bool.false_or, if_true]
      exact h.drain network
    · simp only [henabled, hskip, Bool.not_true, Bool.false_or, Bool.false_eq_true, if_false,
        hdestination]
      rw [h.await_delivery, h.drain_running]

end Pipeline

end HttpAudit
