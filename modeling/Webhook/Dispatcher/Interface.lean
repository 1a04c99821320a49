import Webhook.Dispatcher.Schedule
import Webhook.Inbound

/-!
# The dispatcher's interface

What callers ask of a dispatcher. A call that changes the queue is a sequence of actions; here they
follow one another without others in between. A call that needs the lock of the queue waits until
whoever holds it has given it back (`release`).
-/

namespace Webhook

/-- Why an event is not taken. -/
inductive DispatchError where
  /-- The dispatcher has been shut down. -/
  | shutdown
  deriving DecidableEq

/-- The message of a dispatch error. -/
def DispatchError.message : DispatchError → String
  | shutdown => "dispatcher is shut down"

/-- The numbers that describe a dispatcher. -/
structure Statistics where
  /-- The number of endpoints. -/
  totalEndpoints : Nat
  /-- The number of enabled endpoints. -/
  activeEndpoints : Nat
  /-- The number of envelopes in the queue. -/
  queuedEnvelopes : Nat
  /-- The number of deliveries that succeeded. -/
  delivered : Nat
  /-- The number of deliveries that failed for good. -/
  failed : Nat
  /-- The number of envelopes that nobody was to receive. -/
  droppedEnvelopes : Nat
  deriving DecidableEq

namespace Dispatcher

/-- Whoever holds the lock of the queue gives it back: a producer appends its envelope, and a worker
sees whether the queue is open. -/
def release (d : Dispatcher) : Dispatcher := (d.act .append).act .decide

/-! ## Events -/

/-- Offers an envelope to the queue, when nobody holds its lock; there is no result but an error
where the queue is closed. -/
def enqueue (d : Dispatcher) (item : QueuedEnvelope) : Except DispatchError Dispatcher :=
  match d.release.run [.offer item, .append, .notify] with
  | some (d', _) => .ok d'
  | none => .error .shutdown

/-- Announces an event. -/
def trigger (d : Dispatcher) (id : EventId) (clock : Timestamp) (eventType : EventType)
    (data : Json.Object) (metadata : Option Metadata) : Except DispatchError Dispatcher :=
  d.enqueue ⟨Envelope.new id clock eventType data metadata, none⟩

/-- The data of a test event. -/
def testData (clock : Timestamp) : Json.Object where
  members := [("message", .string "This is a test webhook"), ("test", .bool true),
    ("timestamp", .string clock.truncate.toText)]
  sorted := by
    have keys : ["message", "test", "timestamp"].Pairwise (· < ·) := by decide
    exact ⟨(List.pairwise_map (f := Prod.fst)).1 keys, trivial, trivial, trivial, trivial⟩

/-- The envelope of a test event. -/
def testEnvelope (id : EventId) (clock : Timestamp) : Envelope :=
  Envelope.new id clock .groupCreated (testData clock)
    (some { Metadata.empty with network := some "testnet" })

/-- Sends a test event to one endpoint, whatever it subscribes to; there is no result where there is
no such endpoint. -/
def sendTest (d : Dispatcher) (id : EventId) (clock : Timestamp) (target : EndpointId) :
    Option (Except DispatchError Dispatcher) :=
  if d.registry.contains target then
    some (d.enqueue ⟨testEnvelope id clock, some target⟩)
  else none

/-! ## Endpoints -/

/-- Applies a change of the registry. -/
def withRegistry (d : Dispatcher) (r : Registry) : Dispatcher := { d with registry := r }

/-- What a listing shows of the endpoints. -/
def summaries (d : Dispatcher) : List Endpoint.Summary :=
  d.registry.list.map Endpoint.summary

/-- Decides which endpoint a request with these headers and this body comes from. -/
def verifyInbound (d : Dispatcher) (headers : HeaderList) (body : Bytes) :
    Except VerificationError EndpointId := do
  let parsed := SignatureHeaders.ofHeaders headers
  let some signature := parsed.signature | throw .missingSignature
  let some id := parsed.webhookId | throw .missingWebhookId
  let some endpoint := d.registry.get? ⟨id⟩ | throw .unknownEndpoint
  if Signature.verify (Text.utf8 endpoint.secret) body signature then return endpoint.id
  else throw .invalidSignature

/-! ## State -/

/-- The numbers that describe a dispatcher; the queue is counted when nobody holds its lock. -/
def statistics (d : Dispatcher) : Statistics where
  totalEndpoints := d.registry.counts.1
  activeEndpoints := d.registry.counts.2
  queuedEnvelopes := d.release.queue.pending.length
  delivered := d.counters.delivered
  failed := d.counters.failed
  droppedEnvelopes := d.counters.dropped

/-- Whether the dispatcher takes events. -/
def isRunning (d : Dispatcher) : Bool := d.queue.accepting

/-- Closes the queue, when nobody holds its lock, and lets the worker come to its end. -/
def shutdown (network : Network) (d : Dispatcher) : Dispatcher :=
  ((d.release.act .close).act .notify).runOut network

/-- Closes the queue without waiting for anything, nor for its lock. -/
def drop (d : Dispatcher) : Dispatcher := (d.act .closeNow).act .notify

end Dispatcher

end Webhook
