import HttpAudit.Proofs.Capture.Accepted

set_option relaxedAutoImplicit false
set_option autoImplicit false

/-!
# A capture does not show

Whatever is done with a capture could be done with its sink at once: the same calls fail in the same
way, and the sink is called in the same way, with the same bytes. What is captured, and whether it
is too much, has no influence on that.

## Main definitions

* `HttpAudit.BodyCapture.result`, `HttpAudit.Sink.result` — what comes of an operation.
* `HttpAudit.Sink.perform` — a sink after an operation that is done with it at once.
* `HttpAudit.BodyCapture.resultsWith` — what comes of operations, one after the other.

## Main results

* `HttpAudit.BodyCapture.writeAllWith_map` — repeated calls, seen through a view of the state.
* `HttpAudit.Sink.forwarded_writeAll` — what a sink has received after bytes were written.
* `HttpAudit.BodyCapture.resultsWith_sink` — a capture does what its sink does.
-/

namespace HttpAudit

/-! ## Operations that are done with the sink at once -/

namespace Sink

/-- The sink after an operation. A text and a value as JSON are written as their bytes. -/
def perform (s : Sink) : BodyCapture.Operation → Sink
  | .write bytes => (s.write bytes).2
  | .writeAll bytes => (s.writeAll bytes).2
  | .writeText text => (s.writeAll (Text.Utf8.encode text.toList)).2
  | .writeJson value => (s.writeAll (Text.Utf8.encode value.render.toList)).2
  | .finish chunk => (s.finish chunk).2
  | .flush => s.flush.2
  | .sinkChanges replies failFlush => { s with replies, failFlush }

/-- What comes of an operation: an error, or the number of accepted bytes where this is told. -/
def result (s : Sink) : BodyCapture.Operation → Except SinkError (Option Nat)
  | .write bytes => (s.write bytes).1.map some
  | .writeAll bytes => (s.writeAll bytes).1.map fun _ => none
  | .writeText text => (s.writeAll (Text.Utf8.encode text.toList)).1.map fun _ => none
  | .writeJson value => (s.writeAll (Text.Utf8.encode value.render.toList)).1.map fun _ => none
  | .finish chunk => (s.finish chunk).1.map fun _ => none
  | .flush => s.flush.1.map fun _ => none
  | .sinkChanges _ _ => .ok none

/-! ## What a sink receives -/

/-- Bytes were written to a sink that had received those `before`. If this succeeded, it has
received them all. Otherwise it has received the first ones, but not all, and the reason is not an
interruption. -/
def Forwarded (before bytes : List UInt8) : Except SinkError Unit × Sink → Prop
  | (.ok _, s) => s.received = before ++ bytes
  | (.error error, s) =>
    error ≠ .interrupted ∧ ∃ n < bytes.length, s.received = before ++ bytes.take n

/-- The first bytes are accepted, and then the others are written. -/
lemma Forwarded.of_drop {before bytes : List UInt8} {k : Nat} (hk : k ≤ bytes.length)
    {outcome : Except SinkError Unit × Sink}
    (h : Forwarded (before ++ bytes.take k) (bytes.drop k) outcome) :
    Forwarded before bytes outcome := by
  match outcome, h with
  | (.ok _, s), h =>
    rw [Forwarded, List.append_assoc, List.take_append_drop] at h
    exact h
  | (.error error, s), ⟨herror, n, hn, h⟩ =>
    rw [List.length_drop] at hn
    refine ⟨herror, k + n, by omega, ?_⟩
    rw [h, List.take_add, List.append_assoc]

/-- A call uses up a reply, and if there is none it accepts everything. -/
lemma write_cases (s : Sink) (bytes : List UInt8) :
    (s.write bytes).2.replies.length < s.replies.length ∨
      (s.write bytes).1 = .ok bytes.length := by
  unfold write
  cases s.replies with
  | nil => exact .inr rfl
  | cons reply replies => cases reply <;> exact .inl (Nat.lt_succ_self _)

/-- A sink does not accept more bytes than it is given. -/
lemma le_of_write_ok {s t : Sink} {bytes : List UInt8} {n : Nat}
    (h : s.write bytes = (.ok n, t)) : n ≤ bytes.length := by
  unfold write at h
  split at h
  · cases h
  · cases h
    exact Nat.min_le_right _ _
  · cases h
    exact Nat.le_refl _

/-- What a sink receives of bytes that are written to it.

**Proof sketch.** Induction on the number of calls that may still be made, of which there is one
more than replies: each call takes a reply, and without replies the next call is the last one. -/
lemma forwarded_writeAllWith {fuel : Nat} {s : Sink} (hfuel : s.replies.length < fuel)
    (bytes : List UInt8) : Forwarded s.received bytes (writeAllWith write fuel s bytes) := by
  induction fuel generalizing s bytes with
  | zero => exact absurd hfuel (Nat.not_lt_zero _)
  | succ fuel ih =>
    cases bytes with
    | nil => exact (List.append_nil _).symm
    | cons byte bytes =>
      have hcases := s.write_cases (byte :: bytes)
      unfold writeAllWith
      split
      · next t hzero => exact ⟨by decide, 0, Nat.succ_pos _, received_of_write_ok hzero⟩
      · next n t _ hok =>
        rw [hok] at hcases
        refine Forwarded.of_drop (le_of_write_ok hok) ?_
        rw [← received_of_write_ok hok]
        rcases hcases with hless | hall
        · exact ih (Nat.lt_of_lt_of_le hless (Nat.le_of_lt_succ hfuel)) _
        · obtain rfl : n = (byte :: bytes).length := by simpa using hall
          rw [List.drop_length]
          cases fuel <;> exact (List.append_nil _).symm
      · next t hagain =>
        rw [hagain] at hcases
        rw [← received_of_write_error hagain]
        rcases hcases with hless | hall
        · exact ih (Nat.lt_of_lt_of_le hless (Nat.le_of_lt_succ hfuel)) _
        · cases hall
      · next error t hother herror =>
        refine ⟨fun h => hother (by rw [h]), 0, Nat.succ_pos _, ?_⟩
        rw [received_of_write_error herror]
        exact (List.append_nil _).symm

/-- What a sink receives of bytes that are all written to it. -/
lemma forwarded_writeAll (s : Sink) (bytes : List UInt8) :
    Forwarded s.received bytes (s.writeAll bytes) :=
  forwarded_writeAllWith (Nat.lt_succ_self _) bytes

/-- Writing does not flush. -/
lemma flushes_writeAll (s : Sink) (bytes : List UInt8) :
    (s.writeAll bytes).2.flushes = s.flushes := by
  have hwrite (t : Sink) (bytes : List UInt8) (ht : t.flushes = s.flushes) :
      (t.write bytes).2.flushes = s.flushes := by
    rw [← ht]
    unfold write
    split <;> rfl
  exact BodyCapture.writeAllWith_keeps hwrite _ rfl bytes

end Sink

/-! ## The sink of a capture -/

namespace BodyCapture

/-- Repeated calls are seen as repeated calls, if each call is seen as one. -/
lemma writeAllWith_map {σ τ : Type} {write : σ → List UInt8 → Except SinkError Nat × σ}
    {write' : τ → List UInt8 → Except SinkError Nat × τ} {view : σ → τ}
    (hwrite : ∀ s bytes, (write s bytes).map id view = write' (view s) bytes) (fuel : Nat) (s : σ)
    (bytes : List UInt8) :
    (writeAllWith write fuel s bytes).map id view = writeAllWith write' fuel (view s) bytes := by
  induction fuel generalizing s bytes with
  | zero => cases bytes <;> rfl
  | succ fuel ih =>
    cases bytes with
    | nil => rfl
    | cons byte bytes =>
      unfold writeAllWith
      rw [← hwrite]
      rcases write s (byte :: bytes) with ⟨(error | n), t⟩
      · cases error with
        | interrupted => exact ih t _
        | writeZero => rfl
        | other => rfl
      · cases n with
        | zero => rfl
        | succ n => exact ih t _

section View

variable (c : BodyCapture)

/-- What is captured is not the sink's concern. -/
lemma sink_observe (accepted : List UInt8) : (c.observe accepted).sink = c.sink := by
  simp only [observe]
  split_ifs <;> rfl

/-- Writing with one call. -/
lemma write_map_sink (bytes : List UInt8) : (c.write bytes).map id sink = c.sink.write bytes := by
  unfold write
  split
  · next n s hok =>
    rw [hok]
    exact congrArg (Except.ok n, ·) (sink_observe _ _)
  · next error s herror =>
    rw [herror]
    rfl

/-- Writing with as many calls as it takes. -/
lemma writeAll_map_sink (bytes : List UInt8) :
    (c.writeAll bytes).map id sink = c.sink.writeAll bytes :=
  writeAllWith_map write_map_sink _ c bytes

/-- Writing a last chunk and flushing, unless writing fails. -/
lemma finish_map_sink (chunk : Option (List UInt8)) :
    (c.finish chunk).map id sink = c.sink.finish chunk := by
  cases chunk with
  | none => rfl
  | some bytes =>
    rw [finish, Sink.finish, ← writeAll_map_sink]
    rcases c.writeAll bytes with ⟨(error | _), d⟩ <;> rfl

end View

/-! ## Any operations -/

/-- What comes of an operation: an error, or the number of accepted bytes where this is told. -/
def result (c : BodyCapture) : Operation → Except SinkError (Option Nat)
  | .write bytes => (c.write bytes).1.map some
  | .writeAll bytes => (c.writeAll bytes).1.map fun _ => none
  | .writeText text => (c.writeText text).1.map fun _ => none
  | .writeJson value => (c.writeJson value).1.map fun _ => none
  | .finish chunk => (c.finish chunk).1.map fun _ => none
  | .flush => c.flush.1.map fun _ => none
  | .sinkChanges _ _ => .ok none

/-- What comes of operations, one after the other, where each of them has a result and leaves a
state. -/
def resultsWith {σ : Type} (result : σ → Operation → Except SinkError (Option Nat))
    (perform : σ → Operation → σ) : σ → List Operation → List (Except SinkError (Option Nat))
  | _, [] => []
  | s, operation :: operations =>
    result s operation :: resultsWith result perform (perform s operation) operations

/-- An operation on a capture is one on its sink. -/
lemma result_perform_sink (c : BodyCapture) (operation : Operation) :
    c.result operation = c.sink.result operation ∧
      (c.perform operation).sink = c.sink.perform operation := by
  cases operation with
  | write bytes =>
    rw [Sink.result, Sink.perform, ← write_map_sink]
    exact ⟨rfl, rfl⟩
  | writeAll bytes | writeText text | writeJson value =>
    rw [Sink.result, Sink.perform, ← writeAll_map_sink]
    exact ⟨rfl, rfl⟩
  | finish chunk =>
    rw [Sink.result, Sink.perform, ← finish_map_sink]
    exact ⟨rfl, rfl⟩
  | flush | sinkChanges replies failFlush => exact ⟨rfl, rfl⟩

/-- **A capture does what its sink does.** Whatever a capture holds, be it too much or not: the
results of any operations on it are those that its sink has, and so are the calls that the sink
sees, with their bytes, and the bytes that it receives. If writing all of some bytes fails, the sink
has received the first of them and no others, once; the reason is not an interruption, after which
the call is repeated; and where they are the last chunk, the sink is not flushed.

**Proof sketch.** Each call of the capture is one of its sink (`write_map_sink`), so that repeated
calls are (`writeAllWith_map`) and operations are (`result_perform_sink`). What the sink has
received when writing fails is `Sink.forwarded_writeAll`. -/
theorem resultsWith_sink (c : BodyCapture) (operations : List Operation) :
    resultsWith result perform c operations =
        resultsWith Sink.result Sink.perform c.sink operations ∧
      (operations.foldl perform c).sink = operations.foldl Sink.perform c.sink ∧
      ∀ bytes error, (c.writeAll bytes).1 = .error error →
        error ≠ .interrupted ∧
        (∃ n < bytes.length,
          (c.writeAll bytes).2.sink.received = c.sink.received ++ bytes.take n) ∧
        (c.finish (some bytes)).1 = .error error ∧
        (c.finish (some bytes)).2.sink.flushes = c.sink.flushes := by
  refine ⟨?_, ?_, fun bytes error herror => ?_⟩
  · induction operations generalizing c with
    | nil => rfl
    | cons operation operations ih =>
      obtain ⟨hresult, hsink⟩ := c.result_perform_sink operation
      rw [resultsWith, resultsWith, hresult, ← hsink, ih]
  · induction operations generalizing c with
    | nil => rfl
    | cons operation operations ih =>
      rw [List.foldl_cons, List.foldl_cons, ih, (c.result_perform_sink operation).2]
  · have hforwarded := c.sink.forwarded_writeAll bytes
    have hflushes := c.sink.flushes_writeAll bytes
    rw [← writeAll_map_sink] at hforwarded hflushes
    rw [finish]
    rcases hall : c.writeAll bytes with ⟨(_ | _), d⟩
    · rw [hall] at herror hforwarded hflushes
      obtain rfl := Except.error.inj herror
      exact ⟨hforwarded.1, hforwarded.2, rfl, hflushes⟩
    · rw [hall] at herror
      cases herror

/-- A sink that accepts a part of a chunk, is interrupted and then accepts nothing, in a capture that
holds too much already. -/
theorem resultsWith_sink_writeZero :
    let sink : Sink := { replies := [.accept 2, .accept 1, .fail .interrupted, .accept 0] }
    let c := (around sink (some 1)).perform (.write [1, 2])
    c.overflowed = true ∧
      resultsWith result perform c [.writeAll [3, 4, 5], .flush] =
        [.error .writeZero, .ok none] ∧
      (∃ n < 3, (c.writeAll [3, 4, 5]).2.sink.received = [1, 2] ++ [3, 4, 5].take n) ∧
      (c.finish (some [3, 4, 5])).1 = .error .writeZero ∧
      (c.finish (some [3, 4, 5])).2.sink.flushes = 0 := by
  intro sink c
  have hfails : (c.writeAll [3, 4, 5]).1 = .error .writeZero := rfl
  obtain ⟨hresults, -, hfailed⟩ := resultsWith_sink c [.writeAll [3, 4, 5], .flush]
  obtain ⟨-, hreceived, hfinish, hflushes⟩ := hfailed [3, 4, 5] .writeZero hfails
  exact ⟨rfl, hresults, hreceived, hfinish, hflushes⟩

end BodyCapture

end HttpAudit
