import Webhook.Proofs.Dispatcher.Steps

/-!
# No wake-up is lost

The worker looks at the queue and then waits to be woken up, and between the two anything can happen
to the queue. `no_wakeup_lost` holds of every run of a new dispatcher all the same: where the worker
waits and no wake-up is kept for it, there is nothing to do for it, or a call has changed the queue
and has not woken the worker yet. So the worker never waits for good while an envelope is in the
queue or the queue is closed.

The lock is the first invariant (`Guarded`): while the worker looks, no producer is about to append,
so that what the worker has found is still so when it parks or ends. The second is `Attentive`. It
begins to hold when the worker parks, having just found the queue empty and open. From there on,
every change of the queue leaves a call that is still to wake the worker, and that call leaves a
wake-up. A worker that has let go of the lock and does not wait yet is in the same state as one that
waits, since a wake-up that comes in between is kept for it.
-/

namespace Webhook

namespace Dispatcher

variable {d d' : Dispatcher} {action : Action} {actions : List Action} {events : List Occurrence}

/-! ## The lock -/

/-- While the worker, having found the queue empty, looks whether it is open, and from the moment it
has ended, the queue is empty and no producer is about to append. -/
structure Guarded (d : Dispatcher) : Prop where
  checking : d.worker = .checking → d.queue.pending = [] ∧ d.queue.appending = none
  ended : d.worker = .ended →
    d.queue.pending = [] ∧ d.queue.appending = none ∧ d.queue.accepting = false

/-- A worker that neither looks at the queue nor has ended is guarded. -/
theorem Guarded.of_worker (h₁ : d.worker ≠ .checking) (h₂ : d.worker ≠ .ended) : Guarded d :=
  ⟨fun h => absurd h h₁, fun h => absurd h h₂⟩

/-- A step keeps the guard. -/
theorem Step.guarded (hs : Step d action d' events) (hg : Guarded d) : Guarded d' := by
  cases hs with
  | grant item hl ha =>
    -- the lock is free, so the worker does not look; the queue is open, so it has not ended
    have hne := worker_ne_checking hl
    refine .of_worker hne fun hw => ?_
    rw [(hg.ended hw).2.2] at ha
    cases ha
  | append item hi =>
    -- the producer that appends has the lock
    refine .of_worker (fun hw => ?_) (fun hw => ?_)
    · rw [(hg.checking hw).2] at hi
      cases hi
    · rw [(hg.ended hw).2.1] at hi
      cases hi
  | close => exact ⟨hg.checking, fun hw => ⟨(hg.ended hw).1, (hg.ended hw).2.1, rfl⟩⟩
  | closeNow => exact ⟨hg.checking, fun hw => ⟨(hg.ended hw).1, (hg.ended hw).2.1, rfl⟩⟩
  | rest hw hl hp =>
    have hn := appending_eq_none hl
    exact ⟨fun _ => ⟨hp, hn⟩, by simp⟩
  | stop hw ha =>
    -- what the worker has found under the lock is still so
    obtain ⟨hp, hn⟩ := hg.checking hw
    exact ⟨by simp, fun _ => ⟨hp, hn, ha⟩⟩
  | take => exact .of_worker (by simp) (by simp)
  | drop => exact .of_worker (by simp) (by simp)
  | fanOut => exact .of_worker (by simp) (by simp)
  | park => exact .of_worker (by simp) (by simp)
  | wake => exact .of_worker (by simp) (by simp)
  | deliver => exact .of_worker (by simp) (by simp)
  | record => exact .of_worker (by simp) (by simp)
  | finish => exact .of_worker (by simp) (by simp)
  | _ => exact ⟨hg.checking, hg.ended⟩

/-- Every reachable state is guarded. -/
theorem Run.guarded {config : Config} (hr : Run (create config) actions d events) : Guarded d := by
  induction hr with
  | start => exact .of_worker (by simp [create]) (by simp [create])
  | step hr hs ih => exact hs.guarded ih

/-! ## Calls -/

/-- How often a call has changed the queue in a way that the worker must learn of. -/
def changes (actions : List Action) : Nat :=
  actions.countP fun
    | .append | .close | .closeNow => true
    | _ => false

/-- How often a call has woken the worker. -/
def notifications (actions : List Action) : Nat :=
  actions.countP fun
    | .notify => true
    | _ => false

/-- Whether a call begins with an action; what is left of a call is to append and to notify. -/
def Action.beginsCall : Action → Bool
  | .offer _ | .close | .closeNow => true
  | _ => false

/-- The changes of one action more are added to those before. -/
theorem changes_append (actions : List Action) (action : Action) :
    changes (actions ++ [action]) = changes actions + changes [action] := List.countP_append

/-- The notifications of one action more are added to those before. -/
theorem notifications_append (actions : List Action) (action : Action) :
    notifications (actions ++ [action]) = notifications actions + notifications [action] :=
  List.countP_append

/-- The moves of deliveries are no calls. -/
theorem calls_move (index : Nat) (move : Delivery.Move) :
    changes [move.action index] = 0 ∧ notifications [move.action index] = 0 := by
  cases move <;> exact ⟨rfl, rfl⟩

/-- A step counts a call that has changed the queue as one that is still to wake the worker, until
it does. -/
theorem Step.unnotified (hs : Step d action d' events) :
    d.queue.unnotified + changes [action] = d'.queue.unnotified + notifications [action] := by
  cases hs with
  | deliver index move x y he hw hx hm =>
    rw [he, (calls_move index move).1, (calls_move index move).2]
  | notify hu =>
    have hpos : 0 < d.queue.unnotified := Nat.pos_of_ne_zero hu
    exact (Nat.sub_add_cancel hpos).symm
  | take item later hw hl hp => simp [changes, notifications]
  | _ => rfl

/-- The calls that are still to wake the worker are those that have changed the queue, less those
that have woken the worker. -/
theorem Run.changes_eq {config : Config} (hr : Run (create config) actions d events) :
    changes actions = notifications actions + d.queue.unnotified := by
  induction hr with
  | start => rfl
  | step hr hs ih =>
    have hstep := hs.unnotified
    rw [changes_append, notifications_append]
    omega

/-! ## The worker that waits -/

/-- Where the worker waits and no wake-up is kept for it, it has nothing to do, or a call is still
to wake it. -/
def Attentive (d : Dispatcher) : Prop :=
  d.worker = .parked → d.queue.permit = false →
    (d.queue.pending = [] ∧ d.queue.accepting = true) ∨ 0 < d.queue.unnotified

/-- A worker that is not parked is attentive. -/
theorem Attentive.of_worker (hw : d.worker ≠ .parked) : Attentive d := fun h => absurd h hw

/-- A step of a guarded state keeps the worker attentive. -/
theorem Step.attentive (hs : Step d action d' events) (hg : Guarded d) (ha : Attentive d) :
    Attentive d' := by
  cases hs with
  | park hw hopen =>
    -- what the worker has found under the lock is still so
    exact fun _ _ => .inl ⟨(hg.checking hw).1, hopen⟩
  | append item hi => exact fun _ _ => .inr (Nat.succ_pos _)
  | close => exact fun _ _ => .inr (Nat.succ_pos _)
  | closeNow => exact fun _ _ => .inr (Nat.succ_pos _)
  | notify hu =>
    intro _ hp
    cases hp
  | rest => exact .of_worker (by simp)
  | take => exact .of_worker (by simp)
  | drop => exact .of_worker (by simp)
  | fanOut => exact .of_worker (by simp)
  | stop => exact .of_worker (by simp)
  | wake => exact .of_worker (by simp)
  | deliver => exact .of_worker (by simp)
  | record => exact .of_worker (by simp)
  | finish => exact .of_worker (by simp)
  | _ => exact ha

/-- In every reachable state the worker is attentive. -/
theorem Run.attentive {config : Config} (hr : Run (create config) actions d events) :
    Attentive d := by
  induction hr with
  | start => exact .of_worker (by simp [create])
  | step hr hs ih => exact hs.attentive hr.guarded ih

/-! ## Waiting for good -/

/-- The worker waits, and does so whatever happens, unless a further call begins. -/
def IsStalled (d : Dispatcher) : Prop :=
  d.worker = .parked ∧ ∀ more d' later, d.run more = some (d', later) →
    (∀ action ∈ more, action.beginsCall = false) → d'.worker = .parked

/-- A worker that waits wakes up when a wake-up is kept for it. -/
theorem run_wake (hw : d.worker = .parked) (hp : d.queue.permit = true) :
    ∃ d', d.run [.wake] = some (d', []) ∧ d'.worker = .ready :=
  ⟨{ d with queue := d.queue.wake, worker := .ready }, by simp [run, step, hw, hp], rfl⟩

/-- A worker that waits wakes up when a call is still to wake it. -/
theorem run_notify_wake (hw : d.worker = .parked) (hu : 0 < d.queue.unnotified) :
    ∃ d', d.run [.notify, .wake] = some (d', []) ∧ d'.worker = .ready := by
  have hne : d.queue.unnotified ≠ 0 := Nat.ne_of_gt hu
  exact ⟨{ d with queue := d.queue.notify.wake, worker := .ready },
    by simp [run, step, hw, hne, Queue.notify], rfl⟩

/-- A worker that waits for good has nothing to do. -/
theorem Attentive.of_isStalled (ha : Attentive d) (hs : IsStalled d) :
    d.queue.pending = [] ∧ d.queue.accepting = true := by
  obtain ⟨hw, hgood⟩ := hs
  -- a permit wakes the worker, and so does a notification still owed
  cases hp : d.queue.permit with
  | true =>
    obtain ⟨d', hr, hready⟩ := run_wake hw hp
    have hparked := hgood _ _ _ hr (by simp [Action.beginsCall])
    simp [hready] at hparked
  | false =>
    rcases ha hw hp with hidle | hu
    · exact hidle
    · obtain ⟨d', hr, hready⟩ := run_notify_wake hw hu
      have hparked := hgood _ _ _ hr (by simp [Action.beginsCall])
      simp [hready] at hparked

/-! ## The wake-ups of a run -/

/-- In every run of a new dispatcher: where the worker waits and no wake-up is kept for it, the
queue is empty and open, or a call has changed the queue and has not woken the worker yet; and where
the worker waits for good, the queue is empty and open. -/
theorem no_wakeup_lost (config : Config) (actions : List Action)
    (h : (create config).run actions = some (d, events)) :
    (d.worker = .parked → d.queue.permit = false →
      (d.queue.pending = [] ∧ d.queue.accepting = true) ∨
        notifications actions < changes actions) ∧
      changes actions = notifications actions + d.queue.unnotified ∧
      (IsStalled d → d.queue.pending = [] ∧ d.queue.accepting = true) := by
  have hr := run_iff.1 h
  have hcalls := hr.changes_eq
  refine ⟨fun hw hp => ?_, hcalls, hr.attentive.of_isStalled⟩
  -- of the calls that changed the queue, one has not notified yet
  rcases hr.attentive hw hp with hidle | hu
  · exact .inl hidle
  · right
    omega

/-- A producer appends an envelope at the moment at which the worker, having found nothing, waits.
-/
def Session.race : List Action :=
  [.take, .decide, .offer (item "first"), .append]

/-- After the race the worker waits, with an envelope in the queue, and the producer is still to
wake it. -/
theorem race_wakes : ∃ d events,
    (create Config.default).run Session.race = some (d, events) ∧ d.worker = .parked ∧
      d.queue.permit = false ∧ d.queue.pending ≠ [] ∧
      notifications Session.race < changes Session.race ∧ ¬ IsStalled d := by
  -- the worker decides to wait, and only then the envelope is appended
  have hrace : ((create Config.default).run Session.race).any (fun result =>
      result.1.worker = .parked ∧ result.1.queue.permit = false ∧
        result.1.queue.pending ≠ []) := by
    decide
  obtain ⟨⟨d, events⟩, h, hstate⟩ := (Option.any_eq_true _ _).1 hrace
  obtain ⟨hw, hpermit, hpending⟩ := of_decide_eq_true hstate
  obtain ⟨hattentive, -, hstalled⟩ := no_wakeup_lost Config.default Session.race h
  refine ⟨d, events, h, hw, hpermit, hpending, ?_, fun hs => hpending (hstalled hs).1⟩
  rcases hattentive hw hpermit with ⟨hempty, -⟩ | hcall
  · exact absurd hempty hpending
  · exact hcall

end Dispatcher

end Webhook
