import Webhook.Delivery.Headers
import Webhook.Http.Client

/-!
# Deliveries

The delivery of one envelope to one endpoint: attempts one after another, with growing waits in
between, until one succeeds or there are no more. A delivery keeps the endpoint as it was when the
delivery began. Each of its functions is one step; the time, in milliseconds, and the servers'
replies are given from outside.
-/

namespace Webhook

/-- What a delivery came to. -/
inductive Outcome where
  /-- An attempt succeeded. -/
  | delivered
  /-- The last attempt failed, for this reason. -/
  | failed (reason : Http.FailureReason)
  deriving DecidableEq

/-- The report of a delivery. The moment at which the delivery came to its end is left out; nothing
depends on it. -/
structure Report where
  /-- The event that was delivered. -/
  eventId : EventId
  /-- The type of the event. -/
  eventType : EventType
  /-- The endpoint that it was delivered to. -/
  endpointId : EndpointId
  /-- What the delivery came to. -/
  outcome : Outcome
  /-- The status of the last attempt, if that got a response. -/
  status : Option Nat
  /-- The number of attempts. -/
  attempts : Nat
  deriving DecidableEq

/-- Whether a report is of a success. -/
def Report.isSuccess (r : Report) : Bool := r.outcome = .delivered

/-- What all deliveries of a dispatcher have in common. -/
structure Sender where
  /-- How requests name their sender. -/
  userAgent : String
  /-- How long an attempt may take, in milliseconds. -/
  timeout : Nat
  deriving DecidableEq

/-- Where a delivery stands. -/
inductive Delivery.Phase where
  /-- An attempt starts at a time. -/
  | due (time : Nat)
  /-- An attempt is under way and must end by a time. -/
  | flying (flight : Http.Flight) (deadline : Nat)
  /-- The delivery has come to an end. -/
  | settled (report : Report)
  deriving DecidableEq

/-- The delivery of an envelope to an endpoint. -/
structure Delivery where
  /-- The endpoint, as it was when the delivery began. -/
  endpoint : Endpoint
  /-- The envelope. -/
  envelope : Envelope
  /-- The number of the attempt that is under way or comes next, from 1 on. -/
  attempt : Nat
  /-- Where the delivery stands. -/
  phase : Delivery.Phase
  deriving DecidableEq

namespace Delivery

/-- A delivery whose first attempt starts now. -/
def start (now : Nat) (envelope : Envelope) (endpoint : Endpoint) : Delivery :=
  ⟨endpoint, envelope, 1, .due now⟩

/-- The report of a delivery that ends with the current attempt. -/
def report (d : Delivery) (outcome : Outcome) (status : Option Nat) : Report :=
  ⟨d.envelope.id, d.envelope.eventType, d.endpoint.id, outcome, status, d.attempt⟩

/-- What the result of an attempt that ends now makes of a delivery: a success ends it, and a
failure is followed by a wait and the next attempt, if there is one. -/
def conclude (d : Delivery) (now : Nat) : Http.AttemptResult → Delivery
  | .ok status => { d with phase := .settled (d.report .delivered (some status)) }
  | .error reason =>
    -- the wait grows with the number of the attempt that failed
    if d.attempt < d.endpoint.retryPolicy.attempts then
      { d with
        attempt := d.attempt + 1
        phase := .due (now + d.endpoint.retryPolicy.delayAfter d.attempt) }
    else
      let status := match reason with
        | .status code => some code
        | _ => none
      { d with phase := .settled (d.report (.failed reason) status) }

/-- The request that an attempt starts with; without a url that can be sent to, the result that the
attempt comes to at once. -/
def request (d : Delivery) (sender : Sender) : Except Http.AttemptResult Http.Request :=
  let body := d.envelope.canonicalPayload
  let signature := Signature.compute (Text.utf8 d.endpoint.secret) body
  match Url.parse d.endpoint.url with
  | .error _ => .error (.error (.network "builder error"))
  | .ok url =>
    let headers := deliveryHeaders sender.userAgent signature d.envelope d.endpoint
    let r := Http.Request.post url headers body
    if Http.isSendable r.url then .ok r else .error (Http.buildingFailed r.url)

/-- Starts the attempt that is due. -/
def send (d : Delivery) (sender : Sender) (now : Nat) : Delivery :=
  match d.request sender with
  | .ok r => { d with phase := .flying (Http.Flight.start r) (now + sender.timeout) }
  | .error result => d.conclude now result

/-- Takes in the reply to the request that is under way. -/
def receive (d : Delivery) (now : Nat) (flight : Http.Flight) (deadline : Nat)
    (reply : Http.Reply) : Delivery :=
  match flight.receive reply with
  | .onward next => { d with phase := .flying next deadline }
  | .landed result => d.conclude now result

/-- Ends the attempt that is under way for want of an answer. -/
def expire (d : Delivery) (now : Nat) : Delivery := d.conclude now (.error .timeout)

/-- The time at which the next step of a delivery comes by itself: the start of an attempt, or the
end of one that gets no answer. -/
def nextTime? (d : Delivery) : Option Nat :=
  match d.phase with
  | .due time => some time
  | .flying _ deadline => some deadline
  | .settled _ => none

/-- The most moves of one attempt: one to start it, one for each redirect, and one to end it. -/
def attemptWork : Nat := Http.maxRedirects + 3

/-- The most moves that a delivery has before it. -/
def work (d : Delivery) : Nat :=
  let later := (d.endpoint.retryPolicy.attempts - d.attempt) * attemptWork
  match d.phase with
  | .due _ => later + attemptWork
  | .flying flight _ => later + (Http.maxRedirects + 1 - flight.redirects) + 1
  | .settled _ => 0

end Delivery

end Webhook
