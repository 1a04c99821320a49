import Webhook.Config
import Webhook.Delivery.ReportChannel
import Webhook.Dispatcher.Queue
import Webhook.Registry.Basic

/-!
# The dispatcher

A dispatcher takes events, and one worker delivers them: it takes the oldest envelope from the
queue, looks up who is to receive it, delivers it to all of them side by side, and takes the next
one when all deliveries have come to an end.

The dispatcher is a transition system. An `Action` is one step that nothing can come in between, of
a producer, of one who closes the queue, of the registry, of the worker, of a delivery, of one who
waits for the worker, or of the clock; `step` gives the state after it and what has thereby
happened, or nothing where the action is not possible. The order of actions, the identifiers and
random bytes, the time and the replies of servers are given from outside.
-/

namespace Webhook

/-- What the worker is about to do. -/
inductive Worker where
  /-- It looks into the queue next. -/
  | ready
  /-- It has found the queue empty, holds the lock, and is to see whether the queue is open. -/
  | checking
  /-- It waits to be woken up. -/
  | parked
  /-- It has taken an envelope, and looks up next who is to receive it. -/
  | addressing (item : QueuedEnvelope)
  /-- It delivers an envelope; the deliveries whose reports are not sent yet. -/
  | delivering (deliveries : List Delivery)
  /-- It has found the queue empty and closed. -/
  | ended
  deriving DecidableEq

/-- What has been counted. The numbers have no bound, where a counter in a word of 64 bits goes
round to zero. -/
structure Counters where
  /-- Deliveries that succeeded. -/
  delivered : Nat
  /-- Deliveries that failed for good. -/
  failed : Nat
  /-- Envelopes that nobody was to receive. -/
  dropped : Nat
  /-- Envelopes that are being delivered now. -/
  activeFanOuts : Nat
  /-- The most envelopes that have been delivered at one time. -/
  peakFanOuts : Nat
  deriving DecidableEq

/-- The counters with one more report. -/
def Counters.add (c : Counters) (r : Report) : Counters :=
  if r.isSuccess then { c with delivered := c.delivered + 1 }
  else { c with failed := c.failed + 1 }

/-- One who waits until nothing is in the queue and the worker is idle. -/
inductive Waiter where
  /-- It looks at the queue next, and has seen this version of the worker's state. -/
  | looking (seen : Nat)
  /-- It waits for a version of the worker's state other than this one. -/
  | blocked (seen : Nat)
  /-- It waits no more. -/
  | returned
  deriving DecidableEq

/-- A dispatcher. -/
structure Dispatcher where
  /-- The registered endpoints. -/
  registry : Registry
  /-- The queue of envelopes. -/
  queue : Queue
  /-- What the worker is about to do. -/
  worker : Worker
  /-- What has been counted. -/
  counters : Counters
  /-- The reports of deliveries. -/
  reports : ReportChannel
  /-- What all deliveries have in common. -/
  sender : Sender
  /-- Those who wait for the worker to be idle. -/
  waiters : List Waiter
  /-- The time in milliseconds. -/
  now : Nat

namespace Dispatcher

/-- A new dispatcher. -/
def create (config : Config) : Dispatcher where
  registry := Registry.empty config.defaultRetry
  queue := Queue.empty
  worker := .ready
  counters := ⟨0, 0, 0, 0, 0⟩
  reports := ReportChannel.create config.reportCapacity
  sender := ⟨config.userAgent, config.requestTimeout⟩
  waiters := []
  now := 0

/-- Whether nobody holds the lock of the queue. -/
def isUnlocked (d : Dispatcher) : Bool := d.queue.appending.isNone && d.worker ≠ .checking

/-- The endpoints that an envelope goes to, by the registry as it is. -/
def recipients (d : Dispatcher) (item : QueuedEnvelope) : List Endpoint :=
  match item.target with
  | some id => (d.registry.get? id).toList
  | none => d.registry.subscribers item.envelope.eventType

/-! ## Actions -/

/-- An operation on the registry. -/
inductive RegistryAction where
  /-- Adds an endpoint. -/
  | register (draw : Registry.Draw) (new : Endpoint.New)
  /-- Changes an endpoint. -/
  | update (id : EndpointId) (u : Endpoint.Update)
  /-- Removes an endpoint. -/
  | unregister (id : EndpointId)

/-- One step of a dispatcher and those around it. -/
inductive Action where
  /-- A producer takes the lock and looks whether the queue is open. -/
  | offer (item : QueuedEnvelope)
  /-- The producer that holds the lock appends its envelope. -/
  | append
  /-- One who waits for the lock closes the queue. -/
  | close
  /-- The queue is closed without the lock. -/
  | closeNow
  /-- A call that has changed the queue wakes the worker. -/
  | notify
  /-- An operation on the registry. -/
  | configure (action : RegistryAction)
  /-- The worker takes the oldest envelope. -/
  | take
  /-- The worker looks up who is to receive the envelope that it has taken. -/
  | address
  /-- The worker, having found nothing, sees whether the queue is open. -/
  | decide
  /-- The worker is woken up. -/
  | wake
  /-- The delivery at a place starts its next attempt. -/
  | send (index : Nat)
  /-- The delivery at a place gets a reply. -/
  | reply (index : Nat) (reply : Http.Reply)
  /-- The delivery at a place has waited for a reply in vain. -/
  | expire (index : Nat)
  /-- The worker sends the report of the delivery at a place, which has come to an end. -/
  | record (index : Nat)
  /-- The worker, having sent all reports of an envelope, turns to the queue. -/
  | finish
  /-- Somebody begins to wait for the worker to be idle. -/
  | await
  /-- One who waits, at a place, looks at the queue. -/
  | look (index : Nat)
  /-- One who waits, at a place, notices a change of the worker's state. -/
  | notice (index : Nat)
  /-- Time goes by. -/
  | advance (ms : Nat)

/-- What an action has brought about. -/
inductive Occurrence where
  /-- An envelope was refused. -/
  | refused (item : QueuedEnvelope)
  /-- An envelope was appended to the queue. -/
  | accepted (item : QueuedEnvelope)
  /-- An envelope was taken from the queue. -/
  | taken (item : QueuedEnvelope)
  /-- An envelope is to go to these endpoints. -/
  | addressed (item : QueuedEnvelope) (recipients : List Endpoint)
  /-- A request was sent, at this time, in the course of a delivery. -/
  | requested (delivery : Delivery) (time : Nat) (request : Http.Request)
  /-- A report was sent. -/
  | reported (report : Report)

/-- The request that a delivery waits for the reply to, with the delivery and the time. -/
def requestOf (delivery : Delivery) (now : Nat) : List Occurrence :=
  match delivery.phase with
  | .flying flight _ => [.requested delivery now flight.request]
  | _ => []

/-! ## Steps -/

/-- The registry after an operation; one that fails changes nothing. -/
def RegistryAction.apply (r : Registry) : RegistryAction → Registry
  | register draw new =>
    match r.register draw.candidates draw.seed new with
    | .ok (some (_, r')) => r'
    | _ => r
  | update id u =>
    match r.update id u with
    | .ok (some r') => r'
    | _ => r
  | unregister id => (r.unregister id).getD r

/-- The worker takes an envelope, with the rest of the queue. -/
def takeItem (d : Dispatcher) (item : QueuedEnvelope) (rest : List QueuedEnvelope) :
    Dispatcher × List Occurrence :=
  ({ d with
    queue := Queue.setDraining { d.queue with pending := rest }
    worker := .addressing item }, [.taken item])

/-- The worker looks up who is to receive an envelope, and begins to deliver it. Deliveries always
begin where there are recipients: the payload that they share is there for every envelope. -/
def addressItem (d : Dispatcher) (item : QueuedEnvelope) : Dispatcher × List Occurrence :=
  let endpoints := d.recipients item
  let d' :=
    if endpoints.isEmpty then
      { d with
        worker := .ready
        counters := { d.counters with dropped := d.counters.dropped + 1 } }
    else
      let active := d.counters.activeFanOuts + 1
      { d with
        worker := .delivering (endpoints.map (Delivery.start d.now item.envelope))
        counters := { d.counters with
          activeFanOuts := active, peakFanOuts := max d.counters.peakFanOuts active } }
  (d', [.addressed item endpoints])

/-- Replaces the delivery at a place by what a function makes of it. -/
def updateDelivery (d : Dispatcher) (index : Nat) (f : Delivery → Option Delivery) :
    Option (Dispatcher × List Occurrence) :=
  match d.worker with
  | .delivering deliveries => do
    let next ← f (← deliveries[index]?)
    return ({ d with worker := .delivering (deliveries.set index next) }, requestOf next d.now)
  | _ => none

/-- Whether nothing is due before a time. -/
def allowsUntil (d : Dispatcher) (time : Nat) : Bool :=
  match d.worker with
  | .delivering deliveries => deliveries.all fun x => x.nextTime?.all (time ≤ ·)
  | _ => true

/-- The state after an action, and what has happened; nothing where it is not possible. -/
def step (d : Dispatcher) : Action → Option (Dispatcher × List Occurrence)
  -- producers, and those who close the queue
  | .offer item =>
    if !d.isUnlocked then none
    else if d.queue.accepting then some ({ d with queue := d.queue.grant item }, [])
    else some (d, [.refused item])
  | .append => do
    let item ← d.queue.appending
    return ({ d with queue := d.queue.append item }, [.accepted item])
  | .close => if d.isUnlocked then some ({ d with queue := d.queue.close }, []) else none
  | .closeNow => some ({ d with queue := d.queue.close }, [])
  | .notify =>
    if d.queue.unnotified = 0 then none else some ({ d with queue := d.queue.notify }, [])
  | .configure action => some ({ d with registry := action.apply d.registry }, [])
  -- the worker between two envelopes
  | .take =>
    if d.worker = .ready ∧ d.isUnlocked then
      match d.queue.pending with
      | [] => some ({ d with queue := d.queue.setIdle, worker := .checking }, [])
      | item :: rest => some (d.takeItem item rest)
    else none
  | .address =>
    match d.worker with
    | .addressing item => some (d.addressItem item)
    | _ => none
  | .decide =>
    if d.worker = .checking then
      some ({ d with worker := if d.queue.accepting then .parked else .ended }, [])
    else none
  | .wake =>
    if d.worker = .parked ∧ d.queue.permit then
      some ({ d with queue := d.queue.wake, worker := .ready }, [])
    else none
  -- the deliveries of one envelope
  | .send index => d.updateDelivery index fun x =>
    match x.phase with
    | .due time => if time ≤ d.now then some (x.send d.sender d.now) else none
    | _ => none
  | .reply index reply => d.updateDelivery index fun x =>
    match x.phase with
    | .flying flight deadline => some (x.receive d.now flight deadline reply)
    | _ => none
  | .expire index => d.updateDelivery index fun x =>
    match x.phase with
    | .flying _ deadline => if deadline ≤ d.now then some (x.expire d.now) else none
    | _ => none
  | .record index =>
    match d.worker with
    | .delivering deliveries =>
      match deliveries[index]?.map Delivery.phase with
      | some (.settled report) =>
        some ({ d with
          worker := .delivering (deliveries.eraseIdx index)
          counters := d.counters.add report
          reports := d.reports.send report }, [.reported report])
      | _ => none
    | _ => none
  | .finish =>
    if d.worker = .delivering [] then
      some ({ d with
        worker := .ready
        counters := { d.counters with activeFanOuts := d.counters.activeFanOuts - 1 } }, [])
    else none
  -- those who wait, and the clock
  | .await => some ({ d with waiters := d.waiters ++ [.looking d.queue.version] }, [])
  | .look index =>
    match d.waiters[index]? with
    | some (.looking seen) =>
      if !d.isUnlocked then none
      else
        let next : Waiter :=
          if !d.queue.pending.isEmpty then .blocked seen
          else if d.queue.state = .idle then .returned
          else .blocked d.queue.version
        some ({ d with waiters := d.waiters.set index next }, [])
    | _ => none
  | .notice index =>
    match d.waiters[index]? with
    | some (.blocked seen) =>
      if seen = d.queue.version then none
      else some ({ d with waiters := d.waiters.set index (.looking d.queue.version) }, [])
    | _ => none
  | .advance ms =>
    if d.allowsUntil (d.now + ms) then some ({ d with now := d.now + ms }, []) else none

/-- The state after a sequence of actions, and all that has happened. -/
def run (d : Dispatcher) : List Action → Option (Dispatcher × List Occurrence)
  | [] => some (d, [])
  | action :: rest => do
    let (d', first) ← d.step action
    let (d'', more) ← d'.run rest
    return (d'', first ++ more)

end Dispatcher

end Webhook
