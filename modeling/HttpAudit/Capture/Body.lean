import HttpAudit.Capture.Sink
import HttpAudit.Json.Value
import HttpAudit.Text.Utf8

/-!
# Capturing a body

A body on its way to a sink is captured up to a limit: the bytes that the sink accepts are counted
and copied, and once there are more of them than the limit only the count is kept.

## Main definitions

* `HttpAudit.BodyCapture` — a sink with what was captured.
* `HttpAudit.BodyCapture.logged` — the captured body as a text.
-/

namespace HttpAudit

/-- A sink with what was captured on the way to it. -/
structure BodyCapture where
  /-- The sink. -/
  sink : Sink
  /-- The greatest number of bytes that are copied. -/
  limit : Nat
  /-- The number of bytes that the sink has accepted. -/
  loggedBytes : Nat := 0
  /-- The copy of these bytes, unless there are too many. -/
  body : List UInt8 := []
  /-- Whether there are too many. -/
  overflowed : Bool := false
  deriving DecidableEq, Repr

namespace BodyCapture

/-- The limit where none is chosen. -/
def defaultLimit : Nat := 1024 * 1024

/-- A sink of which nothing has been captured yet. -/
def around (sink : Sink) (limit : Option Nat) : BodyCapture :=
  { sink, limit := limit.getD defaultLimit }

/-- The capture after the sink has accepted more bytes. -/
def observe (c : BodyCapture) (accepted : List UInt8) : BodyCapture :=
  let total := c.loggedBytes + accepted.length
  if c.overflowed then { c with loggedBytes := total }
  else if c.limit < total then { c with loggedBytes := total, overflowed := true, body := [] }
  else { c with loggedBytes := total, body := c.body ++ accepted }

/-- Writes bytes with one call of the sink. -/
def write (c : BodyCapture) (bytes : List UInt8) : Except SinkError Nat × BodyCapture :=
  match c.sink.write bytes with
  | (.ok n, sink) => (.ok n, { c with sink }.observe (bytes.take n))
  | (.error error, sink) => (.error error, { c with sink })

/-- Flushes the sink. -/
def flush (c : BodyCapture) : Except SinkError Unit × BodyCapture :=
  let (result, sink) := c.sink.flush
  (result, { c with sink })

/-- Writes all bytes. -/
def writeAll (c : BodyCapture) (bytes : List UInt8) : Except SinkError Unit × BodyCapture :=
  writeAllWith write (c.sink.replies.length + 1) c bytes

/-- Writes a text. -/
def writeText (c : BodyCapture) (text : String) : Except SinkError Unit × BodyCapture :=
  c.writeAll (Text.Utf8.encode text.toList)

/-- Writes a value as JSON. -/
def writeJson (c : BodyCapture) (value : Json) : Except SinkError Unit × BodyCapture :=
  c.writeText value.render

/-- Writes a last chunk, if there is one, and flushes the sink. -/
def finish (c : BodyCapture) (chunk : Option (List UInt8)) : Except SinkError Unit × BodyCapture :=
  match chunk with
  | none => c.flush
  | some bytes =>
    match c.writeAll bytes with
    | (.ok _, c) => c.flush
    | failed => failed

/-- The captured body, or the number of its bytes. -/
def logged (c : BodyCapture) : String :=
  if c.overflowed then "\x7b\"overflowed: " ++ toString c.loggedBytes ++ "\"\x7d"
  else .ofList (Text.Utf8.decodeLossy c.body)

end BodyCapture

end HttpAudit
