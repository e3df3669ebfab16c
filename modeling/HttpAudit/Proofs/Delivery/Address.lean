import HttpAudit.Proofs.Delivery.Accounts

set_option relaxedAutoImplicit false
set_option autoImplicit false

/-!
# Where requests go

A pipeline settles where its messages go when it is created, and no request goes anywhere else.
Without a usable destination it is disabled for ever. Here it is shown which destinations these
are, and that every step and every operation keeps to them.

## Main definitions

* `HttpAudit.WebUrl.schemeOf?` — the scheme of a text, whether it is a URL or not.
* `HttpAudit.Target.IsUnusable` — nothing can be sent to a target.
* `HttpAudit.Pipeline.issued`, `HttpAudit.Pipeline.awaited` — the requests that a pipeline has
  issued, and those that wait for a permit.
* `HttpAudit.Pipeline.KeepsTo` — a pipeline keeps to its destination.
* `HttpAudit.Pipeline.IsSilent` — nothing has come out of a pipeline, nor can it now.

## Main results

* `HttpAudit.Destination.ofTarget_of_isUnusable`, `HttpAudit.Destination.allowed_of_ofTarget` —
  which destinations are usable.
* `HttpAudit.Process.Step.keepsTo`, `HttpAudit.Process.Run.keepsTo` — steps and interleavings keep
  to the destination.
* `HttpAudit.Process.keepsTo_perform`, `HttpAudit.Process.keepsTo_performAll` — so do operations.
-/

namespace HttpAudit

/-! ## Usable destinations -/

/-- The scheme of a text in lower case, if it has one. -/
def WebUrl.schemeOf? (text : String) : Option (List Char) :=
  (scheme? (clean text.toList)).map Prod.fst

/-- The scheme of a URL. -/
lemma WebUrl.schemeOf?_of_parse? {text : String} {url : WebUrl}
    (h : parse? text.toList = some url) :
    schemeOf? text = some (if url.secure then "https".toList else "http".toList) := by
  unfold parse? at h
  unfold schemeOf?
  cases hscheme : scheme? (clean text.toList) with
  | none =>
    rw [hscheme] at h
    cases h
  | some found =>
    obtain ⟨scheme, rest⟩ := found
    simp only [hscheme, Option.bind_eq_bind, Option.bind_some, beq_iff_eq] at h
    -- whatever is read behind the scheme, it is the scheme that tells whether the URL is secure
    split_ifs at h with hhttps hhttp
    · obtain ⟨host, -, portNumber, -, rfl⟩ := by simpa [Option.bind_eq_some_iff] using h
      simp [hhttps]
    · obtain ⟨host, -, portNumber, -, rfl⟩ := by simpa [Option.bind_eq_some_iff] using h
      simp [hhttp]
    · cases h

/-- Nothing can be sent to the target: it is no queue, and its URL is absent, or no URL, or one with
a scheme other than `http` and `https`, or one with the scheme `http` although that is not allowed.
-/
def Target.IsUnusable (target : Target) (fallback : Option String) (settings : DeliverySettings) :
    Prop :=
  target ≠ .queue ∧ ∀ text, target.url? fallback = some text →
    WebUrl.parse? text.toList = none ∨
      ∃ scheme, WebUrl.schemeOf? text = some scheme ∧ scheme ≠ "https".toList ∧
        (scheme = "http".toList → settings.allowHttpUrl = false)

namespace Destination

variable {target : Target} {fallback : Option String} {settings : DeliverySettings}

/-- Where messages go other than to a queue. -/
lemma ofTarget_of_ne_queue (h : target ≠ .queue) :
    ofTarget target fallback settings =
      match (target.url? fallback).bind
        (Endpoint.ofUrl? settings.allowHttpUrl settings.agent settings.version) with
      | some endpoint => collector endpoint
      | none => unusable := by
  cases target with
  | queue => exact absurd rfl h
  | url text => rfl
  | byDefault => rfl

/-- A collector is used only at the URL of the target, and without encryption only if that is
allowed. -/
lemma allowed_of_ofTarget {endpoint : Endpoint}
    (h : ofTarget target fallback settings = collector endpoint) :
    target ≠ .queue ∧ ∃ text, target.url? fallback = some text ∧
      WebUrl.parse? text.toList = some endpoint.url ∧
      (endpoint.url.secure = true ∨ settings.allowHttpUrl = true) := by
  have hqueue : target ≠ .queue := by
    rintro rfl
    cases h
  refine ⟨hqueue, ?_⟩
  rw [ofTarget_of_ne_queue hqueue] at h
  split at h
  · next found hfound =>
    cases h
    obtain ⟨text, htext, hurl⟩ := Option.bind_eq_some_iff.mp hfound
    refine ⟨text, htext, ?_⟩
    unfold Endpoint.ofUrl? at hurl
    split at hurl
    · next url hparse =>
      split_ifs at hurl with hallowed
      cases hurl
      exact ⟨hparse, by simpa using hallowed⟩
    · cases hurl
  · cases h

/-- An unusable target has no destination. -/
lemma ofTarget_of_isUnusable (h : target.IsUnusable fallback settings) :
    ofTarget target fallback settings = unusable := by
  obtain ⟨hqueue, hurl⟩ := h
  cases hto : ofTarget target fallback settings with
  | unusable => rfl
  | queue =>
    rw [ofTarget_of_ne_queue hqueue] at hto
    split at hto <;> cases hto
  | collector endpoint =>
    obtain ⟨-, text, htext, hparse, hallowed⟩ := allowed_of_ofTarget hto
    have hscheme := WebUrl.schemeOf?_of_parse? hparse
    rcases hurl text htext with hnone | ⟨scheme, hsome, hhttps, hhttp⟩
    · rw [hparse] at hnone
      cases hnone
    · rw [hscheme, Option.some.injEq] at hsome
      subst hsome
      rcases hallowed with hsecure | hallowed
      · rw [if_pos hsecure] at hhttps
        exact absurd rfl hhttps
      · cases hsecure : endpoint.url.secure with
        | true =>
          rw [if_pos hsecure] at hhttps
          exact absurd rfl hhttps
        | false =>
          have hforbidden := hhttp (by rw [hsecure]; rfl)
          rw [hallowed] at hforbidden
          cases hforbidden

end Destination

/-! ## Keeping to a destination -/

namespace Pipeline

/-- The requests that have been issued: those that are over and those that are under way. -/
def issued (p : Pipeline) : List Request := p.ended.map Prod.fst ++ p.running

/-- The requests that wait for a permit. -/
def awaited (p : Pipeline) : List Request := p.waiting.filterMap Waiter.request?

/-- The request goes to this destination. -/
def GoesTo (destination : Destination) (request : Request) : Prop :=
  ∃ endpoint, destination = .collector endpoint ∧ request.url = endpoint.url

/-- Neither has anything come out of the pipeline, nor can it now. -/
structure IsSilent (p : Pipeline) : Prop where
  /-- The pipeline is not enabled. -/
  enabled_eq : p.enabled = false
  /-- No request has been issued. -/
  issued_eq : p.issued = []
  /-- No message counts as delivered. -/
  successes_eq : p.successes = 0
  /-- No message counts as lost. -/
  failures_eq : p.failures = 0

/-- The pipeline has the given destination, all its requests go there, and if it is none the
pipeline is disabled and has counted nothing. -/
structure KeepsTo (destination : Destination) (p : Pipeline) : Prop where
  /-- The destination stays as it was chosen. -/
  destination_eq : p.destination = destination
  /-- The requests that were issued went there. -/
  issued_goesTo : ∀ request ∈ p.issued, GoesTo destination request
  /-- The requests that wait will go there. -/
  awaited_goesTo : ∀ request ∈ p.awaited, GoesTo destination request
  /-- Without a destination the pipeline stays disabled, and nothing is counted. -/
  idle : destination = .unusable → p.enabled = false ∧ p.successes = 0 ∧ p.failures = 0

namespace KeepsTo

/-- A new pipeline. -/
lemma create (target : Target) (fallback : Option String) (settings : DeliverySettings) :
    KeepsTo (.ofTarget target fallback settings) (Pipeline.create target fallback settings) where
  destination_eq := rfl
  issued_goesTo := by simp [issued, Pipeline.create]
  awaited_goesTo := by simp [awaited, Pipeline.create]
  idle h := ⟨by simp [Pipeline.create, h], rfl, rfl⟩

variable {destination : Destination} {p : Pipeline} (h : KeepsTo destination p)

include h

/-- Getting in line, with a request that goes to the destination or to drain the pipeline. -/
lemma join {waiter : Waiter} (hto : ∀ request ∈ waiter.request?, GoesTo destination request) :
    KeepsTo destination (p.join waiter) := by
  refine { h with awaited_goesTo := fun request hrequest => ?_ }
  unfold awaited Pipeline.join at hrequest
  rw [Process.filterMap_concat, List.mem_append, Option.mem_toList] at hrequest
  exact hrequest.elim (h.awaited_goesTo request) (hto request)

/-- Leaving the line. -/
lemma leave (place : Nat) : KeepsTo destination (p.leave place) :=
  { h with
    awaited_goesTo := fun request hrequest =>
      h.awaited_goesTo request (((List.eraseIdx_sublist _ _).filterMap _).subset hrequest) }

/-- Serving somebody in the line: a request that has waited is issued. -/
lemma serve (place : Nat) : KeepsTo destination (p.serve place) := by
  unfold Pipeline.serve
  split
  · exact h
  · next request hwaiter =>
    have hawaited : request ∈ p.awaited :=
      List.mem_filterMap.mpr ⟨_, List.mem_of_getElem? hwaiter, rfl⟩
    refine { h.leave place with issued_goesTo := fun other hother => ?_ }
    unfold issued at hother
    rw [← List.append_assoc, List.mem_append, List.mem_singleton] at hother
    rcases hother with hother | rfl
    · exact h.issued_goesTo other hother
    · exact h.awaited_goesTo _ hawaited
  · exact { h.leave place with }

/-- Ending a request, which must have been issued. So there is a destination. -/
lemma answer (place : Nat) (reply : Reply) : KeepsTo destination (p.answer place reply) := by
  unfold Pipeline.answer
  split
  · exact h
  · next request hrunning =>
    have hissued : request ∈ p.issued := List.mem_append_right _ (List.mem_of_getElem? hrunning)
    refine { h with issued_goesTo := fun other hother => ?_, idle := fun hnone => ?_ }
    · unfold issued at hother
      rw [List.map_append, List.append_assoc, List.mem_append, List.mem_append] at hother
      rcases hother with hended | hthis | hother
      · exact h.issued_goesTo other (List.mem_append_left _ hended)
      · obtain rfl : other = request := by simpa using hthis
        exact h.issued_goesTo other hissued
      · exact h.issued_goesTo other (List.mem_append_right _ (List.mem_of_mem_eraseIdx hother))
    · obtain ⟨endpoint, hsome, -⟩ := h.issued_goesTo request hissued
      rw [hnone] at hsome
      cases hsome

/-- Enabling the pipeline, which is possible only if there is a destination. -/
lemma enable : KeepsTo destination p.enable := by
  unfold Pipeline.enable Pipeline.isEnableable
  split
  · next hcan =>
    refine { h with idle := fun hnone => ?_ }
    rw [h.destination_eq, hnone] at hcan
    cases hcan
  · exact h

/-- Disabling the pipeline. -/
lemma disable : KeepsTo destination p.disable :=
  { h with idle := fun hnone => ⟨rfl, (h.idle hnone).2⟩ }

/-- Without a destination a pipeline is silent. -/
lemma isSilent (hnone : destination = .unusable) : p.IsSilent := by
  obtain ⟨henabled, hsuccesses, hfailures⟩ := h.idle hnone
  refine ⟨henabled, ?_, hsuccesses, hfailures⟩
  rw [List.eq_nil_iff_forall_not_mem]
  intro request hrequest
  obtain ⟨endpoint, hsome, -⟩ := h.issued_goesTo request hrequest
  rw [hnone] at hsome
  cases hsome

end KeepsTo

end Pipeline

/-! ## Steps and operations -/

namespace Process

open Pipeline (KeepsTo)

variable {destination : Destination} {s t : Process}

/-- Steps keep to the destination. -/
lemma Step.keepsTo {e : Event} (h : Step s e t) (hs : KeepsTo destination s.pipeline) :
    KeepsTo destination t.pipeline := by
  cases h with
  | submit place h hto =>
    refine hs.join fun request hrequest => ?_
    obtain rfl : _ = request := Option.some.inj hrequest
    exact ⟨_, hs.destination_eq.symm.trans hto, rfl⟩
  | drain => exact hs.join (by simp [Waiter.request?])
  | giveUp place h => exact hs.leave place
  | serve place h hfree => exact hs.serve place
  | answer place reply h => exact hs.answer place reply
  | giveBack place h => exact { hs with }
  | enable => exact hs.enable
  | disable => exact hs.disable
  | _ => exact hs

/-- Interleavings keep to the destination. -/
lemma Run.keepsTo {log : List Event} (h : Run s log t) (hs : KeepsTo destination s.pipeline) :
    KeepsTo destination t.pipeline := by
  induction h with
  | nil => exact hs
  | snoc _ hstep ih => exact hstep.keepsTo ih

/-- What an interleaving leads to keeps to the destination. -/
lemma Reaches.keepsTo (h : Reaches s t) (hs : KeepsTo destination s.pipeline) :
    KeepsTo destination t.pipeline := by
  obtain ⟨log, hlog⟩ := h
  exact hlog.keepsTo hs

/-- Handing over a message keeps to the destination, be it a collector, a queue or none. -/
lemma keepsTo_submit (hs : KeepsTo destination s.pipeline) (message : Option String) :
    KeepsTo destination (s.pipeline.submit s.switch message) := by
  cases message with
  | none => exact hs
  | some message =>
    cases hto : s.pipeline.destination with
    | collector endpoint => exact (reaches_submit hto (some message)).keepsTo hs
    | queue =>
      have hqueue : destination = .queue := hs.destination_eq.symm.trans hto
      simp only [Pipeline.submit, hto]
      split_ifs
      · exact hs
      · refine { hs with destination_eq := hqueue.symm, idle := fun hnone => ?_ }
        rw [hqueue] at hnone
        cases hnone
    | unusable =>
      simp only [Pipeline.submit, hto]
      split_ifs <;> exact hs

/-- Operations keep to the destination. -/
lemma keepsTo_perform (hs : KeepsTo destination s.pipeline) (operation : Operation) :
    KeepsTo destination (s.perform operation).pipeline := by
  cases operation with
  | submit message => exact keepsTo_submit hs message
  | complete place reply => exact (reaches_complete s place reply).keepsTo hs
  | await => exact (reaches_await s).keepsTo hs
  | drain network => exact ((reaches_await s).trans (reaches_completeAll network _ _)).keepsTo hs
  | giveUp place => exact (reaches_settle (s.put (s.pipeline.leave place))).keepsTo (hs.leave place)
  | enable => exact hs.enable
  | disable => exact hs.disable
  | switch change => exact hs

/-- Operations, one after the other, keep to the destination. -/
lemma keepsTo_performAll (hs : KeepsTo destination s.pipeline) (operations : List Operation) :
    KeepsTo destination (operations.foldl perform s).pipeline := by
  induction operations generalizing s with
  | nil => exact hs
  | cons operation operations ih => exact ih (keepsTo_perform hs operation)

end Process

end HttpAudit
