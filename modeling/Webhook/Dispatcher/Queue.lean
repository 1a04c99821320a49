import Webhook.Endpoint.Basic
import Webhook.Event.Envelope

/-!
# The queue of envelopes

The envelopes that wait for delivery, first in, first out, and what producers, the worker and those
who wait for it share. A lock guards the queue: between the check that the queue is open and the
append, a producer holds it. Closing needs no lock, so it can come in between. A wake-up of the
worker that finds it awake is kept as one permit. The state of the worker has a version, by which
those who wait for a change notice one.
-/

namespace Webhook

/-- What the worker does, as others see it. -/
inductive WorkerState where
  /-- There was nothing in the queue. -/
  | idle
  /-- It delivers envelopes. -/
  | draining
  deriving DecidableEq

/-- The name of a worker state. -/
def WorkerState.name : WorkerState → String
  | idle => "idle"
  | draining => "draining"

/-- An envelope in the queue. -/
structure QueuedEnvelope where
  /-- The envelope. -/
  envelope : Envelope
  /-- The only endpoint that it goes to; otherwise it goes to all subscribers. -/
  target : Option EndpointId
  deriving DecidableEq

/-- The queue. -/
structure Queue where
  /-- The envelopes that wait, oldest first. -/
  pending : List QueuedEnvelope
  /-- Whether the queue is open to more. -/
  accepting : Bool
  /-- The envelope of the producer that holds the lock, having found the queue open. -/
  appending : Option QueuedEnvelope
  /-- How many calls have made their change and are still to wake the worker. -/
  unnotified : Nat
  /-- Whether a wake-up is kept for the worker. -/
  permit : Bool
  /-- What the worker does, as others see it. -/
  state : WorkerState
  /-- How often the state has been set. -/
  version : Nat
  deriving DecidableEq

namespace Queue

/-- An open queue without envelopes. -/
def empty : Queue := ⟨[], true, none, 0, false, .idle, 0⟩

/-- A producer has found the queue open, and keeps the lock. -/
def grant (q : Queue) (item : QueuedEnvelope) : Queue := { q with appending := some item }

/-- The producer appends its envelope and gives up the lock. -/
def append (q : Queue) (item : QueuedEnvelope) : Queue :=
  { q with pending := q.pending ++ [item], appending := none, unnotified := q.unnotified + 1 }

/-- The queue is closed to more envelopes. -/
def close (q : Queue) : Queue := { q with accepting := false, unnotified := q.unnotified + 1 }

/-- A call that has made its change wakes the worker. -/
def notify (q : Queue) : Queue := { q with unnotified := q.unnotified - 1, permit := true }

/-- The worker uses up the wake-up that is kept for it. -/
def wake (q : Queue) : Queue := { q with permit := false }

/-- The worker is seen to deliver; only a change counts as one. -/
def setDraining (q : Queue) : Queue :=
  match q.state with
  | .draining => q
  | .idle => { q with state := .draining, version := q.version + 1 }

/-- The worker is seen to be idle; this counts as a change even where it was. -/
def setIdle (q : Queue) : Queue := { q with state := .idle, version := q.version + 1 }

/-- Whether nothing waits and the worker is idle. -/
def isQuiet (q : Queue) : Bool := q.pending.isEmpty && q.state = .idle

end Queue

end Webhook
