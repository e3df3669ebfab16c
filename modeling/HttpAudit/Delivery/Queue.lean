/-!
# Message queues

A queue within the process, which takes the place of a collector.

## Main definitions

* `HttpAudit.MessageQueue` — such a queue.
* `HttpAudit.MessageQueue.push` — puts a message in.
-/

namespace HttpAudit

/-- A queue of messages. -/
structure MessageQueue where
  /-- The messages that were put in, in order. -/
  messages : List String := []
  /-- Whether somebody still reads from the queue. -/
  isOpen : Bool := true
  deriving DecidableEq, Repr

namespace MessageQueue

/-- The queue with one more message. Nothing gets into a queue that nobody reads from. -/
def push (q : MessageQueue) (message : String) : MessageQueue :=
  if q.isOpen then { q with messages := q.messages ++ [message] } else q

/-- The queue once nobody reads from it. -/
def close (q : MessageQueue) : MessageQueue := { q with isOpen := false }

end MessageQueue

end HttpAudit
