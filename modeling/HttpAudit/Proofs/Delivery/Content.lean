import HttpAudit.Proofs.Delivery.Single
import HttpAudit.Proofs.Zlib.Stream

set_option relaxedAutoImplicit false
set_option autoImplicit false

/-!
# What collectors decode

A collector decodes the body of a request by the name that the request gives for its encoding, and
knows nothing else of how the body was made. Here it is shown, over all interleavings of calls and
deliveries, that each message for which a call got through to the line has one request, from whose
body its bytes are decoded.

## Main definitions

* `HttpAudit.decodeAs?` — the bytes that a collector decodes from a body.
* `HttpAudit.Request.Carries` — the body of a request holds the bytes of a message.
* `HttpAudit.Process.Matches` — the deliveries of a log with their messages.

## Main results

* `HttpAudit.Endpoint.carries_request` — the request for a message carries it.
* `HttpAudit.Process.Matches.step` — steps keep requests and messages together.
* `HttpAudit.Process.carries_of_interleaving` — what collectors decode in every interleaving.
-/

namespace HttpAudit

/-! ## The body of a request -/

/-- The bytes that a collector decodes from a body that comes with the name of an encoding. It
knows two names. -/
def decodeAs? (name : String) (body : List UInt8) : Option (List UInt8) :=
  if name = "identity" then some body
  else if name = "deflated" then Zlib.decompress body
  else none

/-- The bytes with which a text is stored. -/
def bytesOf (text : String) : List UInt8 := text.toUTF8.data.toList

/-- A request carries a message: a collector decodes the bytes of the message from its body, and
the body is these bytes or a stream for them, as the name of the encoding says. -/
structure Request.Carries (r : Request) (message : String) : Prop where
  /-- What is decoded is the message. -/
  decoded_eq : decodeAs? r.encoding.name r.body = some (bytesOf message)
  /-- Under the one name the body is the message. -/
  body_eq : r.encoding.name = "identity" → r.body = bytesOf message
  /-- Under the other name the body is a stream for the message. -/
  isStream : r.encoding.name = "deflated" → Zlib.IsStream r.body (bytesOf message)

/-- A body is decoded under the name of the encoding with which it was made. -/
lemma decodeAs?_encode (encoding : Encoding) (bytes : List UInt8) :
    decodeAs? encoding.name (encoding.encode bytes) = some bytes := by
  rw [← encoding.decode?_encode bytes]
  cases encoding with
  | identity => rfl
  | deflated => rfl

/-- The request that is made for a message carries it. -/
lemma Endpoint.carries_request (e : Endpoint) (encoding : Encoding) (message : String) :
    (e.request encoding message).Carries message := by
  have hbody : (e.request encoding message).body = encoding.encode (bytesOf message) := by
    rw [bytesOf, ← Text.Utf8.encode_toList]
    rfl
  refine ⟨by rw [hbody]; exact decodeAs?_encode encoding _, ?_, ?_⟩
  · rw [hbody]
    cases encoding with
    | identity => exact fun _ => rfl
    | deflated => exact fun h => absurd h (by decide : Encoding.deflated.name ≠ "identity")
  · rw [hbody]
    cases encoding with
    | identity => exact fun h => absurd h (by decide : Encoding.identity.name ≠ "deflated")
    | deflated => exact fun _ => Zlib.isStream_compress _

namespace Process

/-! ## Messages on their way to the line -/

/-- The message of the call that has passed all checks, if one has. -/
def Event.passes? : Event → Option String
  | passed message => some message
  | _ => none

/-- The messages of the calls that have passed all checks, in order. -/
def passed (log : List Event) : List String := log.filterMap Event.passes?

/-- No step changes how messages are encoded. -/
lemma Step.encoding {s t : Process} {e : Event} (h : Step s e t) :
    t.pipeline.encoding = s.pipeline.encoding := by
  cases h with
  | serve place h =>
    unfold put Pipeline.serve
    split <;> rfl
  | answer place reply h =>
    unfold put Pipeline.answer
    split <;> rfl
  | enable =>
    unfold put Pipeline.enable
    split <;> rfl
  | _ => rfl

/-- What a step does to the messages that have yet to get in line: a call comes to them, one of
them gets in line by a request that is made for it, or nothing happens to them. -/
lemma Step.entering {s t : Process} {e : Event} (h : Step s e t) :
    (∃ message, e = .passed message ∧ t.entering = message :: s.entering) ∨
      (∃ (endpoint : Endpoint) (message : String),
        e = .joined (.delivery (endpoint.request s.pipeline.encoding message)) ∧
          s.entering.Perm (message :: t.entering)) ∨
      (e.passes? = none ∧ e.submits? = none ∧ t.entering = s.entering) := by
  cases h with
  | pass place h hon => exact .inl ⟨_, rfl, rfl⟩
  | submit place h hto => exact .inr (.inl ⟨_, _, rfl, perm_cons_eraseIdx h⟩)
  | _ => exact .inr (.inr ⟨rfl, rfl, rfl⟩)

/-- The deliveries of a log with the messages for which they were made. -/
structure Matches (log : List Event) (s : Process) (deliveries : List (Request × String)) :
    Prop where
  /-- They are the requests that got in line. -/
  requests_eq : deliveries.map Prod.fst = submitted log
  /-- Each message that has passed all checks has one, or has yet to get in line. -/
  passed_perm : (passed log).Perm (deliveries.map Prod.snd ++ s.entering)
  /-- Each carries its message, as the pipeline is told to encode it. -/
  carries : ∀ delivery ∈ deliveries, delivery.1.encoding = s.pipeline.encoding ∧
    delivery.1.Carries delivery.2

/-- Steps keep requests and messages together. -/
lemma Matches.step {log : List Event} {s t : Process} {e : Event}
    {deliveries : List (Request × String)} (h : Matches log s deliveries) (hstep : Step s e t) :
    ∃ deliveries, Matches (log ++ [e]) t deliveries := by
  have hsubmitted : submitted (log ++ [e]) = submitted log ++ e.submits?.toList :=
    filterMap_concat ..
  have hpassed : passed (log ++ [e]) = passed log ++ e.passes?.toList := filterMap_concat ..
  have hcarries : ∀ delivery ∈ deliveries, delivery.1.encoding = t.pipeline.encoding ∧
      delivery.1.Carries delivery.2 := by
    rw [hstep.encoding]
    exact h.carries
  obtain ⟨message, rfl, hentering⟩ | ⟨endpoint, message, rfl, hentering⟩ |
    ⟨hpasses, hsubmits, hentering⟩ := hstep.entering
  · refine ⟨deliveries, ⟨?_, ?_, hcarries⟩⟩
    · rw [hsubmitted, h.requests_eq]
      exact (List.append_nil _).symm
    · rw [hpassed, hentering]
      exact (List.perm_append_singleton message _).trans
        ((h.passed_perm.cons message).trans List.perm_middle.symm)
  · let request := endpoint.request s.pipeline.encoding message
    refine ⟨deliveries ++ [(request, message)], ⟨?_, ?_, ?_⟩⟩
    · rw [hsubmitted, List.map_append, h.requests_eq]
      rfl
    · rw [hpassed, List.map_append, List.append_assoc]
      show (passed log ++ []).Perm _
      rw [List.append_nil]
      exact h.passed_perm.trans (hentering.append_left _)
    · rw [List.forall_mem_append]
      refine ⟨hcarries, fun delivery hdelivery => ?_⟩
      obtain rfl := List.mem_singleton.mp hdelivery
      exact ⟨hstep.encoding.symm, endpoint.carries_request _ message⟩
  · refine ⟨deliveries, ⟨?_, ?_, hcarries⟩⟩
    · rw [hsubmitted, hsubmits, h.requests_eq]
      exact (List.append_nil _).symm
    · rw [hpassed, hpasses, hentering]
      simpa using h.passed_perm

/-- Interleavings keep requests and messages together. -/
lemma Run.exists_matches {s t : Process} {log : List Event} (h : Run s log t)
    (hstart : s.entering = []) :
    t.pipeline.encoding = s.pipeline.encoding ∧ ∃ deliveries, Matches log t deliveries := by
  induction h with
  | nil => exact ⟨rfl, [], ⟨rfl, by rw [hstart]; exact .refl _, by simp⟩⟩
  | snoc _ hstep ih =>
    obtain ⟨hencoding, deliveries, hmatches⟩ := ih
    exact ⟨hstep.encoding.trans hencoding, hmatches.step hstep⟩

/-- The requests that have been sent: those of the deliveries that run and of those that have
ended. -/
def sent (p : Pipeline) : List Request := p.running ++ p.ended.map Prod.fst

/-- A message that is handed over to a new pipeline while all flags are on is sent at once, by the
request that is made for it. -/
lemma sent_submit_create {target : Target} {fallback : Option String}
    {settings : DeliverySettings} {switch : Switch} {endpoint : Endpoint}
    (hto : (Pipeline.create target fallback settings).destination = .collector endpoint)
    (henabled : (Pipeline.create target fallback settings).isEnabled switch = true)
    (hsent : settings.skipSubmission = false) (message : String) :
    sent ((Pipeline.create target fallback settings).submit switch (some message)) =
      [endpoint.request (Pipeline.create target fallback settings).encoding message] := by
  have hskip : (Pipeline.create target fallback settings).skipSubmission = false := hsent
  have hended : (Pipeline.create target fallback settings).ended = [] := rfl
  have hidle := Pipeline.isIdle_create target fallback settings
  rw [Pipeline.submit]
  simp only [henabled, hskip, hto, Bool.not_true, Bool.or_false, Bool.false_eq_true, if_false]
  rw [hidle.await_delivery, sent]
  simp [hended]

/-- The name of the encoding that a new pipeline is told to use. -/
lemma name_encoding_create (target : Target) (fallback : Option String)
    (settings : DeliverySettings) :
    (Pipeline.create target fallback settings).encoding.name =
      if settings.skipCompression then "identity" else "deflated" := by
  cases hskip : settings.skipCompression <;>
    simp [Pipeline.create, Pipeline.encoding, Encoding.name, hskip]

/-- **Collectors decode what was handed over.** Any message that is handed over to a new pipeline
while all flags are on is sent to the collector by one request, which names the encoding that the
pipeline was told to use. From its body a collector decodes, by this name, the bytes of the message:
the body is these bytes, or a stream for them, with a valid header, compressed blocks and a checksum
that matches.

The same holds in any interleaving of calls, replies and changes of the flags. Each message whose
call has passed all checks has yet to get in line, or there is one delivery for it; these deliveries
are the requests that have been sent, that wait in line, and that have left it, and each carries its
message. Whatever the bytes are, compressing them gives a stream for them, and decompressing it
gives them back.

**Proof sketch.** A request is made in the step by which a message gets in line, and the request
made for a message carries it (`Endpoint.carries_request`), so requests and messages stay together
(`Matches.step`). What becomes of the requests in line is told by the accounts. -/
theorem carries_of_interleaving (target : Target) (fallback : Option String)
    (settings : DeliverySettings) (switch : Switch) :
    (∀ endpoint message,
      (Pipeline.create target fallback settings).destination = .collector endpoint →
      (Pipeline.create target fallback settings).isEnabled switch = true →
      settings.skipSubmission = false →
        ∃ request,
          sent ((Pipeline.create target fallback settings).submit switch (some message)) =
            [request] ∧
          request.url = endpoint.url ∧
          request.encoding.name =
            (if settings.skipCompression then "identity" else "deflated") ∧
          request.Carries message) ∧
      (∀ log s, Run (fresh target fallback settings switch) log s →
        ∃ deliveries : List (Request × String),
          (passed log).Perm (deliveries.map Prod.snd ++ s.entering) ∧
          (deliveries.map Prod.fst).Perm
            (sent s.pipeline ++
              (withdrawn log ++ s.pipeline.waiting.filterMap Waiter.request?)) ∧
          ∀ delivery ∈ deliveries,
            delivery.1.encoding.name =
                (if settings.skipCompression then "identity" else "deflated") ∧
              delivery.1.Carries delivery.2) ∧
      ∀ bytes : List UInt8, Zlib.IsStream (Zlib.compress bytes) bytes ∧
        Zlib.decompress (Zlib.compress bytes) = some bytes := by
  refine ⟨fun endpoint message hto henabled hsent => ?_, fun log s hrun => ?_,
    fun bytes => ⟨Zlib.isStream_compress bytes, Zlib.decompress_compress bytes⟩⟩
  · exact ⟨_, sent_submit_create hto henabled hsent message, rfl,
      name_encoding_create target fallback settings, endpoint.carries_request _ message⟩
  · have haccounts := hrun.accounts (accounts_create target fallback settings)
    obtain ⟨hencoding, deliveries, hmatches⟩ := hrun.exists_matches rfl
    refine ⟨deliveries, hmatches.passed_perm, ?_, fun delivery hdelivery => ?_⟩
    · have hsent : (admitted log).Perm (sent s.pipeline) := by
        rw [sent, haccounts.ended_eq]
        exact haccounts.admitted_perm
      rw [hmatches.requests_eq]
      exact haccounts.submitted_perm.trans (hsent.append_right _)
    · obtain ⟨hname, hcarries⟩ := hmatches.carries delivery hdelivery
      rw [hencoding] at hname
      exact ⟨by rw [hname]; exact name_encoding_create target fallback settings, hcarries⟩

/-- A message is sent compressed. Of three messages that are handed over to a pipeline with one
permit two have been sent when one has ended, and each of these requests carries a message that was
handed over. -/
theorem carries_of_interleaving_sampled :
    (∃ endpoint,
      (Pipeline.create (.url "https://[::1]/") none {}).destination = .collector endpoint ∧
      ∃ request, sent ((Pipeline.create (.url "https://[::1]/") none {}).submit {} (some "aé")) =
        [request] ∧ request.encoding.name = "deflated" ∧ request.Carries "aé") ∧
      ∃ log s, Run (fresh (.url "https://[::1]/") none { maxInFlight := 0 } {}) log s ∧
        (sent s.pipeline).length = 2 ∧
        ∀ request ∈ sent s.pipeline, ∃ message ∈ passed log, request.Carries message := by
  let settings : DeliverySettings := { maxInFlight := 0 }
  let start := fresh (.url "https://[::1]/") none settings {}
  let operations : List Operation :=
    [.submit (some ""), .submit (some "aé"), .submit (some ""), .complete 0 (.status 204)]
  cases hto : start.pipeline.destination with
  | queue => exact absurd hto (by decide +kernel)
  | unusable => exact absurd hto (by decide +kernel)
  | collector endpoint =>
    obtain ⟨request, hsent, -, hname, hcarries⟩ :=
      (carries_of_interleaving (.url "https://[::1]/") none {} {}).1 endpoint "aé" hto
        (by decide +kernel) rfl
    obtain ⟨log, hrun⟩ := reaches_performAll hto operations
    obtain ⟨deliveries, hmessages, hrequests, hall⟩ :=
      (carries_of_interleaving (.url "https://[::1]/") none settings {}).2.1 log _ hrun
    refine ⟨⟨endpoint, hto, request, hsent, hname, hcarries⟩, log, _, hrun, by decide +kernel,
      fun request hrequest => ?_⟩
    have hmem := hrequests.mem_iff.mpr (List.mem_append_left _ hrequest)
    obtain ⟨delivery, hdelivery, rfl⟩ := List.mem_map.mp hmem
    refine ⟨delivery.2, hmessages.mem_iff.mpr (List.mem_append_left _ ?_), (hall _ hdelivery).2⟩
    exact List.mem_map_of_mem hdelivery

end Process

end HttpAudit
