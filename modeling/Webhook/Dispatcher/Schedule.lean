import Webhook.Dispatcher.Basic

/-!
# A schedule for the worker

One order of the steps of a dispatcher that is left to itself, whose servers are given by a
function: whatever can happen at once happens, first what is left of calls that have begun, then the
worker and its deliveries in their order, and only then time goes by, up to the next thing that is
due. `runUntil`, `runQuiet` and `runOut` follow this schedule up to a time, until the queue is
quiet, and until the worker has ended. No call begins in between, so that the schedule comes to its
end; `budget` bounds its steps. -/

namespace Webhook.Dispatcher

/-- What comes back for a request, at once; none stands for a server that never answers. -/
abbrev Network := Http.Request → Option Http.Reply

/-- The network in which no server can be reached. -/
def unreachable : Network := fun _ => some .broken

/-- What a delivery at a place can do at a time. -/
def deliveryAction? (network : Network) (now index : Nat) (x : Delivery) : Option Action :=
  match x.phase with
  | .due time => if time ≤ now then some (.send index) else none
  | .flying flight deadline =>
    match network flight.request with
    | some reply => some (.reply index reply)
    | none => if deadline ≤ now then some (.expire index) else none
  | .settled _ => some (.record index)

/-- The first thing that deliveries, the first of them at a place, can do at a time. -/
def deliveriesAction? (network : Network) (now index : Nat) : List Delivery → Option Action
  | [] => none
  | x :: rest =>
    (deliveryAction? network now index x).or (deliveriesAction? network now (index + 1) rest)

/-- The next step of the worker and its deliveries that takes no time. -/
def workerAction? (network : Network) (d : Dispatcher) : Option Action :=
  match d.worker with
  | .ready => some .take
  | .checking => some .decide
  | .parked => if d.queue.permit then some .wake else none
  | .addressing _ => some .address
  | .delivering [] => some .finish
  | .delivering deliveries => deliveriesAction? network d.now 0 deliveries
  | .ended => none

/-- The next step that takes no time: calls that have begun come to their end first. -/
def immediate? (network : Network) (d : Dispatcher) : Option Action :=
  if d.queue.appending.isSome then some .append
  else if d.queue.unnotified ≠ 0 then some .notify
  else workerAction? network d

/-- The time of the next thing that is due. -/
def nextTime? (d : Dispatcher) : Option Nat :=
  match d.worker with
  | .delivering deliveries => (deliveries.filterMap Delivery.nextTime?).min?
  | _ => none

/-- The next step: one that takes no time, else the time that goes by to the next thing due. -/
def next? (network : Network) (d : Dispatcher) : Option Action :=
  (immediate? network d).or (d.nextTime?.map fun time => .advance (time - d.now))

/-- The state after an action; a state in which it is not possible stays as it is. -/
def act (d : Dispatcher) (action : Action) : Dispatcher :=
  match d.step action with
  | some (d', _) => d'
  | none => d

/-- Follows the schedule until a condition holds or nothing more happens, for at most so many
steps. -/
def follow (network : Network) (stop : Dispatcher → Bool) : Nat → Dispatcher → Dispatcher
  | 0, d => d
  | fuel + 1, d =>
    if stop d then d
    else
      match next? network d with
      | none => d
      | some action => follow network stop fuel (d.act action)

/-! ## How long it takes -/

/-- The sum of a number for each item of a list. -/
def sumOf {α : Type} (f : α → Nat) : List α → Nat
  | [] => 0
  | x :: rest => f x + sumOf f rest

/-- The most steps that the schedule has for a delivery: one for each move, one to wait before each,
and one for the report. -/
def deliverySteps (now : Nat) (x : Delivery) : Nat :=
  2 * x.work + (if x.nextTime?.any (now < ·) then 1 else 0) + 1

/-- The most steps that the deliveries of one envelope can have if all endpoints receive it. -/
def roundSteps (d : Dispatcher) : Nat :=
  sumOf (fun e => 2 * (e.retryPolicy.attempts * Delivery.attemptWork) + 1) d.registry.list

/-- The most steps that the worker has before it looks into the queue again or waits, with that look
and what it finds out if the queue is empty. -/
def workerSteps (d : Dispatcher) : Nat :=
  match d.worker with
  | .ready => 2
  | .checking => 1
  | .parked => 0
  | .addressing _ => d.roundSteps + 4
  | .delivering deliveries => sumOf (deliverySteps d.now) deliveries + 3
  | .ended => 0

/-- The most steps that a queue still asks for, if the deliveries of one envelope have so many: for
each envelope that waits, for the wake-up that is kept, and for the calls that are still to notify
or to append. -/
def queueSteps (round : Nat) (q : Queue) : Nat :=
  q.pending.length * (round + 3) + q.permit.toNat * 3 + q.unnotified * 4 +
    q.appending.toList.length * (round + 8)

/-- The most steps that the schedule has. -/
def budget (d : Dispatcher) : Nat := d.workerSteps + queueSteps d.roundSteps d.queue

/-! ## Runs -/

/-- Whether the next step of the schedule is not before a time. -/
def reaches (network : Network) (time : Nat) (d : Dispatcher) : Bool :=
  (immediate? network d).isNone && d.nextTime?.all (time ≤ ·)

/-- All that is due before a time happens, and then it is that time. -/
def runUntil (network : Network) (time : Nat) (d : Dispatcher) : Dispatcher :=
  let d := d.follow network (reaches network time) d.budget
  d.act (.advance (time - d.now))

/-- Runs until the queue, once nobody holds its lock, is found empty and the worker idle. -/
def runQuiet (network : Network) (d : Dispatcher) : Dispatcher :=
  d.follow network (fun d => d.isUnlocked && d.queue.isQuiet) d.budget

/-- Runs until the worker has ended. -/
def runOut (network : Network) (d : Dispatcher) : Dispatcher :=
  d.follow network (fun d => d.worker = .ended) d.budget

end Webhook.Dispatcher
