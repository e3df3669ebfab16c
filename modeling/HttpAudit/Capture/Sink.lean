/-!
# Sinks

What bytes are written to. A sink may accept only a part of the bytes that it is given, or fail.
Its behaviour is given as the list of its replies to the calls that will be made.

## Main definitions

* `HttpAudit.Sink` — a sink, with its replies and what it has been told.
* `HttpAudit.Sink.write`, `HttpAudit.Sink.flush` — single calls.
* `HttpAudit.writeAllWith` — repeated calls, until everything is written.
-/

namespace HttpAudit

/-- Why a call fails. -/
inductive SinkError where
  /-- Not a single byte was accepted. -/
  | writeZero
  /-- The call was interrupted and can be repeated. -/
  | interrupted
  /-- Any other reason. -/
  | other
  deriving DecidableEq, Repr

/-- How a sink replies to being written to. -/
inductive SinkReply where
  /-- It accepts the given number of bytes, or all if there are fewer. -/
  | accept (most : Nat)
  /-- It fails. -/
  | fail (error : SinkError)
  deriving DecidableEq, Repr

/-- A call of a sink. -/
inductive SinkCall where
  /-- Bytes are written. -/
  | write (bytes : List UInt8)
  /-- What was written is flushed. -/
  | flush
  deriving DecidableEq, Repr

/-- A sink. -/
structure Sink where
  /-- The replies to the next writes. After them everything is accepted. -/
  replies : List SinkReply
  /-- Whether flushing fails. -/
  failFlush : Bool := false
  /-- The calls so far, last to first. -/
  calls : List SinkCall := []
  /-- The bytes accepted so far. -/
  received : List UInt8 := []
  deriving DecidableEq, Repr

namespace Sink

/-- Writes bytes with one call. The number of accepted bytes is returned. -/
def write (s : Sink) (bytes : List UInt8) : Except SinkError Nat × Sink :=
  let called := { s with replies := s.replies.tail, calls := .write bytes :: s.calls }
  match s.replies.head? with
  | some (.fail error) => (.error error, called)
  | some (.accept most) =>
    (.ok (min most bytes.length), { called with received := s.received ++ bytes.take most })
  | none => (.ok bytes.length, { called with received := s.received ++ bytes })

/-- Flushes what was written. -/
def flush (s : Sink) : Except SinkError Unit × Sink :=
  (if s.failFlush then .error .other else .ok (), { s with calls := .flush :: s.calls })

/-- The number of times that the sink was flushed. -/
def flushes (s : Sink) : Nat := (s.calls.filter (· == .flush)).length

end Sink

/-- Writes bytes with as many calls as it takes, `fuel` at most. An interrupted call is
repeated. -/
def writeAllWith {σ : Type} (write : σ → List UInt8 → Except SinkError Nat × σ) :
    (fuel : Nat) → σ → List UInt8 → Except SinkError Unit × σ
  | _, s, [] => (.ok (), s)
  | 0, s, _ => (.error .interrupted, s)
  | fuel + 1, s, bytes =>
    match write s bytes with
    | (.ok 0, s) => (.error .writeZero, s)
    | (.ok n, s) => writeAllWith write fuel s (bytes.drop n)
    | (.error .interrupted, s) => writeAllWith write fuel s bytes
    | (.error error, s) => (.error error, s)

/-- Writes all bytes to a sink. Each call takes a reply, and the one after the last reply accepts
everything. -/
def Sink.writeAll (s : Sink) (bytes : List UInt8) : Except SinkError Unit × Sink :=
  writeAllWith Sink.write (s.replies.length + 1) s bytes

/-- Writes a last chunk, if there is one, and flushes. -/
def Sink.finish (s : Sink) (chunk : Option (List UInt8)) : Except SinkError Unit × Sink :=
  match chunk with
  | none => s.flush
  | some bytes =>
    match s.writeAll bytes with
    | (.ok _, s) => s.flush
    | failed => failed

end HttpAudit
