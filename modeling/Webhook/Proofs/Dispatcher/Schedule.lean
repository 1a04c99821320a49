import Mathlib.Algebra.Order.BigOperators.Group.List
import Mathlib.Algebra.Order.Ring.Nat
import Webhook.Dispatcher.Interface
import Webhook.Proofs.Delivery.Alone
import Webhook.Proofs.Dispatcher.Steps
import Webhook.Proofs.Registry.Keys

/-!
# The schedule comes to its end

A dispatcher that is left to itself has only so much to do. Its `budget` is a sum with one part for
each thing that is still to be done, and every step of the schedule is possible and makes the sum
smaller (`exists_step_of_next?`): a move of a delivery by `Delivery.work_lt_of_move?`, the passing
of time because a delivery that had to wait need not wait any more. So whoever follows the schedule
within its budget stops because the condition holds or because nothing more happens
(`follow_ends`), and the latter is so only when no call is under way and the worker has ended or
waits without a wake-up (`next?_eq_none`).
-/

namespace Webhook

/-! ## Sums over a list of which one item changes -/

section

variable {α : Type} {l : List α} {i : Nat} {x y : α}

/-- A sum is one of its parts and the sum without it. -/
theorem sum_map_eraseIdx (f : α → Nat) (hx : l[i]? = some x) :
    f x + ((l.eraseIdx i).map f).sum = (l.map f).sum := by
  obtain ⟨hi, rfl⟩ := List.getElem?_eq_some_iff.1 hx
  have hperm := ((List.getElem_cons_eraseIdx_perm hi).map f).sum_nat
  rwa [List.map_cons, List.sum_cons] at hperm

/-- A sum becomes smaller when one of its parts does. -/
theorem sum_map_set_lt (f : α → Nat) (hx : l[i]? = some x) (hlt : f y < f x) :
    ((l.set i y).map f).sum < (l.map f).sum := by
  obtain ⟨hi, -⟩ := List.getElem?_eq_some_iff.1 hx
  have hset := ((List.set_perm_cons_eraseIdx hi y).map f).sum_nat
  rw [List.map_cons, List.sum_cons] at hset
  rw [hset, ← sum_map_eraseIdx f hx]
  exact Nat.add_lt_add_right hlt _

end

/-- A delivery has all its attempts before it when it starts. -/
theorem Delivery.work_start (now : Nat) (envelope : Envelope) (e : Endpoint) :
    (Delivery.start now envelope e).work = e.retryPolicy.attempts * attemptWork := by
  have hpos : 1 ≤ e.retryPolicy.attempts := Nat.le_max_left ..
  simp only [work, start]
  rw [← Nat.succ_mul, Nat.succ_eq_add_one, Nat.sub_add_cancel hpos]

namespace Dispatcher

variable {d d' : Dispatcher} {action : Action} {events : List Occurrence} {network : Network}
  {now later index : Nat} {deliveries : List Delivery} {x y : Delivery}

/-! ## The steps that a delivery has before it -/

/-- It is the sum of the list of values. -/
theorem sumOf_eq {α : Type} (f : α → Nat) (l : List α) : sumOf f l = (l.map f).sum := by
  induction l with
  | nil => rfl
  | cons x l ih => rw [sumOf, ih, List.map_cons, List.sum_cons]

/-- Every delivery has a step left, that of its report. -/
theorem deliverySteps_pos (now : Nat) (x : Delivery) : 0 < deliverySteps now x := Nat.succ_pos _

/-- A move takes at least two steps away, of which it may need one to wait for the next move. -/
theorem deliverySteps_lt_of_move? {sender : Sender} {m : Delivery.Move}
    (h : x.move? sender now m = some y) : deliverySteps now y < deliverySteps now x := by
  have hwork := Delivery.work_lt_of_move? h
  unfold deliverySteps
  split <;> split <;> omega

/-- As time goes by, there is no more to wait for than before. -/
theorem deliverySteps_le (h : now ≤ later) : deliverySteps later x ≤ deliverySteps now x := by
  unfold deliverySteps
  cases hx : x.nextTime? with
  | none => exact Nat.le_refl _
  | some time =>
    simp only [Option.any_some, decide_eq_true_eq]
    split <;> split <;> omega

/-- A delivery that had to wait need not when its time has come. -/
theorem deliverySteps_lt {time : Nat} (hx : x.nextTime? = some time) (hlt : now < time) :
    deliverySteps time x < deliverySteps now x := by
  simp [deliverySteps, hx, hlt]

/-- A delivery that starts now waits for nothing: two steps for each piece of work, and its report.
-/
theorem deliverySteps_start (now : Nat) (envelope : Envelope) (e : Endpoint) :
    deliverySteps now (Delivery.start now envelope e) =
      2 * (e.retryPolicy.attempts * Delivery.attemptWork) + 1 := by
  have hnow : (Delivery.start now envelope e).nextTime? = some now := rfl
  simp [deliverySteps, Delivery.work_start, hnow]

/-- The deliveries of an envelope have no more steps than if all endpoints received it. -/
theorem sum_deliverySteps_start (d : Dispatcher) (item : QueuedEnvelope) :
    sumOf (deliverySteps d.now) ((d.recipients item).map (Delivery.start d.now item.envelope)) ≤
      d.roundSteps := by
  rw [roundSteps, sumOf_eq, sumOf_eq, List.map_map]
  simp only [Function.comp_def, deliverySteps_start]
  exact ((d.recipients_sublist item).map _).sum_le_sum (fun _ _ => Nat.zero_le _)

/-! ## What deliveries can do -/

/-- What a delivery can do at once is a move, or to have its report sent. -/
theorem deliveryAction?_cases (h : deliveryAction? network now index x = some action) :
    (∃ m, action = Delivery.Move.action index m ∧
      ∀ sender, ∃ y, x.move? sender now m = some y) ∨
    ∃ report, action = .record index ∧ x.phase = .settled report := by
  -- an attempt that is due, a flight that is answered or has expired, a report
  unfold deliveryAction? at h
  split at h
  next time hp =>
    split at h <;> cases h
    next hle => exact .inl ⟨.send, rfl, fun sender => by simp [Delivery.move?, hp, hle]⟩
  next flight deadline hp =>
    split at h
    next reply _ =>
      cases h
      exact .inl ⟨.reply reply, rfl, fun sender => by simp [Delivery.move?, hp]⟩
    · split at h <;> cases h
      next hle => exact .inl ⟨.expire, rfl, fun sender => by simp [Delivery.move?, hp, hle]⟩
  next report hp =>
    cases h
    exact .inr ⟨report, rfl, hp⟩

/-- A delivery that can do nothing at once waits for a time that is still to come. -/
theorem lt_of_deliveryAction?_eq_none (h : deliveryAction? network now index x = none) :
    ∃ time, x.nextTime? = some time ∧ now < time := by
  -- nothing to do means that the time of the attempt, or the deadline, is still to come
  unfold deliveryAction? at h
  split at h
  next time hp =>
    split at h <;> cases h
    next hlt => exact ⟨time, by simp only [Delivery.nextTime?, hp], Nat.lt_of_not_le hlt⟩
  next flight deadline hp =>
    split at h
    · cases h
    · split at h <;> cases h
      next hlt => exact ⟨deadline, by simp only [Delivery.nextTime?, hp], Nat.lt_of_not_le hlt⟩
  · cases h

/-- What deliveries can do at once, one of them can do. -/
theorem deliveriesAction?_eq_some
    (h : deliveriesAction? network now index deliveries = some action) :
    ∃ place x, deliveries[place]? = some x ∧
      deliveryAction? network now (index + place) x = some action := by
  induction deliveries generalizing index with
  | nil => cases h
  | cons x deliveries ih =>
    rcases Option.or_eq_some_iff.1 h with h | ⟨-, h⟩
    · exact ⟨0, x, rfl, h⟩
    · obtain ⟨place, y, hy, ha⟩ := ih h
      refine ⟨place + 1, y, hy, ?_⟩
      rwa [show index + (place + 1) = index + 1 + place by omega]

/-- When deliveries can do nothing at once, each of them waits. -/
theorem lt_of_deliveriesAction?_eq_none
    (h : deliveriesAction? network now index deliveries = none) :
    ∀ x ∈ deliveries, ∃ time, x.nextTime? = some time ∧ now < time := by
  induction deliveries generalizing index with
  | nil => simp
  | cons x deliveries ih =>
    obtain ⟨hx, hrest⟩ := Option.or_eq_none_iff.1 h
    intro y hy
    rcases List.mem_cons.1 hy with rfl | hy
    · exact lt_of_deliveryAction?_eq_none hx
    · exact ih hrest y hy

/-! ## Each step of the schedule -/

/-- Whether an action goes on with what has begun, and takes no time. -/
def Action.goesOn : Action → Bool
  | .append | .notify | .take | .address | .decide | .wake | .finish => true
  | .send _ | .reply _ _ | .expire _ | .record _ => true
  | _ => false

/-- The budget becomes smaller with the part of the worker. -/
theorem budget_lt_of_worker (hr : d'.registry = d.registry) (hq : d'.queue = d.queue)
    (hw : d'.workerSteps < d.workerSteps) : d'.budget < d.budget := by
  have hround : d'.roundSteps = d.roundSteps := by rw [roundSteps, roundSteps, hr]
  rw [budget, budget, hround, hq]
  exact Nat.add_lt_add_right hw _

/-- What an append costs is for the notification and for the envelope that waits then. -/
theorem queueSteps_append {q : Queue} {item : QueuedEnvelope} (hi : q.appending = some item)
    (round : Nat) : queueSteps round (q.append item) < queueSteps round q := by
  simp only [queueSteps, Queue.append, hi, List.length_append, List.length_singleton,
    Option.toList_none, Option.toList_some, List.length_nil, Nat.add_mul]
  omega

/-- What a notification costs is for the wake-up, should there be none yet. -/
theorem queueSteps_notify {q : Queue} (hu : q.unnotified ≠ 0) (round : Nat) :
    queueSteps round q.notify < queueSteps round q := by
  simp only [queueSteps, Queue.notify, Bool.toNat_true]
  omega

/-- A wake-up that is used up pays for the look into the queue. -/
theorem queueSteps_wake {q : Queue} (hp : q.permit = true) (round : Nat) :
    queueSteps round q.wake + 3 = queueSteps round q := by
  simp only [queueSteps, Queue.wake, hp, Bool.toNat_true, Bool.toNat_false]
  omega

/-- An envelope that is taken pays for its deliveries and for the next look into the queue. -/
theorem queueSteps_take {q : Queue} {item : QueuedEnvelope} {rest : List QueuedEnvelope}
    (hp : q.pending = item :: rest) (round : Nat) :
    queueSteps round (Queue.setDraining { q with pending := rest }) + round + 3 =
      queueSteps round q := by
  simp only [queueSteps, hp, List.length_cons, Nat.succ_mul, Queue.setDraining_pending,
    Queue.setDraining_permit, Queue.setDraining_unnotified, Queue.setDraining_appending]
  omega

/-- What goes on with what has begun lowers the budget, in whatever order it comes. -/
theorem Step.budget_lt (hs : Step d action d' events) (ha : action.goesOn) :
    d'.budget < d.budget := by
  -- a call's two steps and the worker's, each of which has its own summand
  cases hs with
  | append item hi => exact Nat.add_lt_add_left (queueSteps_append hi _) _
  | notify hu => exact Nat.add_lt_add_left (queueSteps_notify hu _) _
  | rest hw hl hp =>
    have hworker : workerSteps d = 2 := by rw [workerSteps, hw]
    rw [budget, budget, hworker]
    exact Nat.add_lt_add_right (Nat.lt_succ_self 1) _
  | take item later hw hl hp =>
    have hworker : workerSteps d = 2 := by rw [workerSteps, hw]
    have hqueue := queueSteps_take hp d.roundSteps
    rw [budget, budget, hworker]
    simp only [workerSteps, roundSteps] at hqueue ⊢
    omega
  | wake hw hp =>
    have hworker : workerSteps d = 0 := by rw [workerSteps, hw]
    have hqueue := queueSteps_wake hp d.roundSteps
    rw [budget, budget, hworker]
    simp only [workerSteps, roundSteps] at hqueue ⊢
    omega
  -- from here on the queue is left as it is, and the worker's summand decreases
  | drop item hw hr =>
    refine budget_lt_of_worker rfl rfl ?_
    simp only [workerSteps, hw]
    omega
  | fanOut item hw hr =>
    refine budget_lt_of_worker rfl rfl ?_
    have hsum := sum_deliverySteps_start d item
    simp only [workerSteps, hw]
    omega
  | park hw hc =>
    refine budget_lt_of_worker rfl rfl ?_
    simp only [workerSteps, hw]
    omega
  | stop hw hc =>
    refine budget_lt_of_worker rfl rfl ?_
    simp only [workerSteps, hw]
    omega
  | deliver index move x y he hw hx hm =>
    refine budget_lt_of_worker rfl rfl ?_
    have hsum := sum_map_set_lt (deliverySteps d.now) hx (deliverySteps_lt_of_move? hm)
    simp only [workerSteps, hw, sumOf_eq]
    omega
  | record index x report hw hx hp =>
    refine budget_lt_of_worker rfl rfl ?_
    have hsum := sum_map_eraseIdx (deliverySteps d.now) hx
    have hpos := deliverySteps_pos d.now x
    simp only [workerSteps, hw, sumOf_eq]
    omega
  | finish hw =>
    refine budget_lt_of_worker rfl rfl ?_
    simp only [workerSteps, hw, sumOf]
    omega
  | _ => cases ha

/-! ## Time -/

/-- Time can go by up to a moment when the first thing that is due is not before it. -/
theorem allowsUntil_of_nextTime? {time : Nat} (h : d.nextTime?.all (time ≤ ·)) :
    d.allowsUntil time := by
  unfold allowsUntil
  split
  next deliveries hw =>
    rw [nextTime?, hw] at h
    -- every delivery that waits does so at least until the first of all
    refine List.all_eq_true.2 fun x hx => ?_
    cases hxt : x.nextTime? with
    | none => rfl
    | some later =>
      have hmem : later ∈ deliveries.filterMap Delivery.nextTime? :=
        List.mem_filterMap.2 ⟨x, hx, hxt⟩
      obtain ⟨first, hfirst⟩ := Option.isSome_iff_exists.1 (List.isSome_min?_of_mem hmem)
      have hle : first ≤ later := (List.min?_eq_some_iff.1 hfirst).2 later hmem
      simp only [hfirst, Option.all_some, decide_eq_true_eq] at h ⊢
      exact Nat.le_trans h hle
  · rfl

/-- When all deliveries wait, there is a first one to wait for. -/
theorem exists_nextTime? (hw : d.worker = .delivering deliveries) (hne : deliveries ≠ [])
    (hwait : ∀ x ∈ deliveries, ∃ time, x.nextTime? = some time ∧ d.now < time) :
    ∃ time, d.nextTime? = some time := by
  obtain ⟨x, hx⟩ := List.exists_mem_of_ne_nil deliveries hne
  obtain ⟨time, hxt, -⟩ := hwait x hx
  have hmem : time ∈ deliveries.filterMap Delivery.nextTime? := List.mem_filterMap.2 ⟨x, hx, hxt⟩
  rw [nextTime?, hw]
  exact Option.isSome_iff_exists.1 (List.isSome_min?_of_mem hmem)

/-- When all deliveries wait, the time up to the first of them can go by, which lowers the budget.
-/
theorem exists_advance {time : Nat} (hw : d.worker = .delivering deliveries)
    (hwait : ∀ x ∈ deliveries, ∃ time, x.nextTime? = some time ∧ d.now < time)
    (ht : d.nextTime? = some time) :
    ∃ d', Step d (.advance (time - d.now)) d' [] ∧ d'.now = time ∧ d'.budget < d.budget := by
  -- the delivery that is due first
  obtain ⟨x, hx, hxt⟩ : ∃ x ∈ deliveries, x.nextTime? = some time := by
    rw [nextTime?, hw] at ht
    exact List.mem_filterMap.1 (List.min?_eq_some_iff.1 ht).1
  have hlt : d.now < time := by
    obtain ⟨time', hxt', hlt⟩ := hwait x hx
    rw [hxt] at hxt'
    cases hxt'
    exact hlt
  have hnow : d.now + (time - d.now) = time := Nat.add_sub_cancel' (Nat.le_of_lt hlt)
  refine ⟨{ d with now := d.now + (time - d.now) }, .advance _ ?_, hnow, ?_⟩
  · rw [hnow]
    exact allowsUntil_of_nextTime? (by simp [ht])
  · -- one delivery at least need not wait any more
    have hsum : (deliveries.map (deliverySteps time)).sum <
        (deliveries.map (deliverySteps d.now)).sum :=
      List.sum_lt_sum _ _ (fun y _ => deliverySteps_le (Nat.le_of_lt hlt))
        ⟨x, hx, deliverySteps_lt hxt hlt⟩
    refine budget_lt_of_worker rfl rfl ?_
    simp only [workerSteps, hw, hnow, sumOf_eq]
    exact Nat.add_lt_add_right hsum 3

/-! ## The schedule -/

/-- What the worker or a delivery can do at once is possible, when no producer is to append. -/
theorem exists_step_of_workerAction? (hn : d.queue.appending = none)
    (h : workerAction? network d = some action) :
    ∃ d' events, Step d action d' events ∧ action.goesOn := by
  unfold workerAction? at h
  -- one case for each state of the worker, whose guards are those of the step
  split at h
  next hw =>
    cases h
    have hl : d.isUnlocked := by simp [isUnlocked, hn, hw]
    cases hp : d.queue.pending with
    | nil => exact ⟨_, _, .rest hw hl hp, rfl⟩
    | cons item later => exact ⟨_, _, .take item later hw hl hp, rfl⟩
  next hw =>
    cases h
    cases ha : d.queue.accepting with
    | true => exact ⟨_, _, .park hw ha, rfl⟩
    | false => exact ⟨_, _, .stop hw ha, rfl⟩
  next hw =>
    split at h <;> cases h
    next hp => exact ⟨_, _, .wake hw hp, rfl⟩
  next item hw =>
    cases h
    by_cases hr : d.recipients item = []
    · exact ⟨_, _, .drop item hw hr, rfl⟩
    · exact ⟨_, _, .fanOut item hw hr, rfl⟩
  next hw =>
    cases h
    exact ⟨_, _, .finish hw, rfl⟩
  next deliveries _ hw =>
    -- the first delivery with something to do moves, or is recorded
    obtain ⟨place, x, hx, ha⟩ := deliveriesAction?_eq_some h
    rw [Nat.zero_add] at ha
    rcases deliveryAction?_cases ha with ⟨m, rfl, hm⟩ | ⟨report, rfl, hp⟩
    · obtain ⟨y, hy⟩ := hm d.sender
      exact ⟨_, _, .deliver place m x y rfl hw hx hy, by cases m <;> rfl⟩
    · exact ⟨_, _, .record place x report hw hx hp, rfl⟩
  · cases h

/-- When the worker and its deliveries can do nothing at once, the worker has ended, or waits
without a wake-up, or waits for deliveries all of which wait. -/
theorem workerAction?_eq_none (h : workerAction? network d = none) :
    d.worker = .ended ∨ (d.worker = .parked ∧ d.queue.permit = false) ∨
      ∃ deliveries, d.worker = .delivering deliveries ∧ deliveries ≠ [] ∧
        ∀ x ∈ deliveries, ∃ time, x.nextTime? = some time ∧ d.now < time := by
  unfold workerAction? at h
  -- in all other states the worker has something to do
  split at h
  next hw => cases h
  next hw => cases h
  next hw =>
    split at h <;> cases h
    next hp => exact .inr (.inl ⟨hw, by simpa using hp⟩)
  next hw => cases h
  next hw => cases h
  next deliveries hne hw =>
    exact .inr (.inr ⟨deliveries, hw, hne, lt_of_deliveriesAction?_eq_none h⟩)
  next hw => exact .inl hw

/-- What can happen at once is possible, and goes on with what has begun. -/
theorem exists_step_of_immediate? (h : immediate? network d = some action) :
    ∃ d' events, Step d action d' events ∧ action.goesOn := by
  unfold immediate? at h
  -- a push to be finished comes first, then a notification, then the worker
  split at h
  next hi =>
    cases h
    obtain ⟨item, hi⟩ := Option.isSome_iff_exists.1 hi
    exact ⟨_, _, .append item hi, rfl⟩
  next hi =>
    split at h
    next hu =>
      cases h
      exact ⟨_, _, .notify hu, rfl⟩
    · exact exists_step_of_workerAction? (by simpa using hi) h

/-- When nothing can happen at once, no call is under way. -/
theorem immediate?_eq_none (h : immediate? network d = none) :
    d.queue.appending = none ∧ d.queue.unnotified = 0 ∧ workerAction? network d = none := by
  unfold immediate? at h
  split at h
  · cases h
  next hi =>
    split at h
    · cases h
    next hu => exact ⟨by simpa using hi, by simpa using hu, h⟩

/-- Each step of the schedule is possible and lowers the budget; and when time goes by, it does so
up to the next thing that is due. -/
theorem exists_step_of_next? (h : next? network d = some action) :
    ∃ d' events, Step d action d' events ∧ d'.budget < d.budget ∧
      (d'.now = d.now ∨ immediate? network d = none ∧ d.nextTime? = some d'.now) := by
  rcases Option.or_eq_some_iff.1 h with h | ⟨hnone, h⟩
  · obtain ⟨d', events, hs, ha⟩ := exists_step_of_immediate? h
    refine ⟨d', events, hs, hs.budget_lt ha, .inl ?_⟩
    -- the steps of a call and of the worker leave the clock alone
    cases hs <;> first | rfl | cases ha
  · obtain ⟨time, ht, rfl⟩ := Option.map_eq_some_iff.1 h
    obtain ⟨-, -, hworker⟩ := immediate?_eq_none hnone
    rcases workerAction?_eq_none hworker with hw | ⟨hw, -⟩ | ⟨deliveries, hw, -, hwait⟩
    · -- only deliveries are due at a time
      rw [nextTime?, hw] at ht
      cases ht
    · rw [nextTime?, hw] at ht
      cases ht
    · obtain ⟨d', hs, hnow, hlt⟩ := exists_advance hw hwait ht
      exact ⟨d', [], hs, hlt, .inr ⟨hnone, hnow ▸ ht⟩⟩

/-- Nothing more happens only when no call is under way, and the worker has ended or waits without a
wake-up. -/
theorem next?_eq_none (h : next? network d = none) :
    d.queue.appending = none ∧ d.queue.unnotified = 0 ∧
      (d.worker = .ended ∨ d.worker = .parked ∧ d.queue.permit = false) := by
  obtain ⟨himmediate, htime⟩ := Option.or_eq_none_iff.1 h
  obtain ⟨hn, hu, hworker⟩ := immediate?_eq_none himmediate
  refine ⟨hn, hu, ?_⟩
  rcases workerAction?_eq_none hworker with hw | hw | ⟨deliveries, hw, hne, hwait⟩
  · exact .inl hw
  · exact .inr hw
  · -- deliveries that wait are waited for
    obtain ⟨time, ht⟩ := exists_nextTime? hw hne hwait
    rw [ht] at htime
    cases htime

/-- An action that is possible is made. -/
theorem act_eq (hs : Step d action d' events) : d.act action = d' := by
  simp only [act, hs.step_eq]

/-! ## Giving the lock back -/

/-- A producer that holds the lock gives it back by appending its envelope, and a worker leaves the
queue alone. -/
theorem queue_release (d : Dispatcher) :
    d.release.queue = d.queue.appending.elim d.queue d.queue.append := by
  cases hi : d.queue.appending <;> by_cases hw : d.worker = .checking <;>
    simp [release, act, step, hi, hw]

/-- Whoever has held the lock has given it back. -/
theorem isUnlocked_release (d : Dispatcher) : d.release.isUnlocked := by
  have hworker : d.release.worker ≠ .checking := by
    cases hi : d.queue.appending <;> by_cases hw : d.worker = .checking <;>
      cases ha : d.queue.accepting <;> simp [release, act, step, Queue.append, hi, hw, ha]
  have hqueue : d.release.queue.appending = none := by
    rw [queue_release]
    cases hi : d.queue.appending with
    | none => exact hi
    | some item => rfl
  simp [isUnlocked, hworker, hqueue]

/-- To give the lock back neither opens nor closes the queue. -/
theorem accepting_release (d : Dispatcher) :
    d.release.queue.accepting = d.queue.accepting := by
  rw [queue_release]
  cases d.queue.appending <;> rfl

/-- The envelope of the producer that has held the lock waits behind the others. -/
theorem pending_release (d : Dispatcher) :
    d.release.queue.pending = d.queue.pending ++ d.queue.appending.toList := by
  rw [queue_release]
  cases d.queue.appending with
  | none => exact (List.append_nil _).symm
  | some item => rfl

/-! ## Following the schedule -/

/-- Whoever follows the schedule within its budget stops because the condition holds, or because
nothing more happens. The induction is on the steps that are left, which are never fewer than the
budget. -/
theorem follow_ends (network : Network) (stop : Dispatcher → Bool) {fuel : Nat}
    (hf : d.budget ≤ fuel) : stop (d.follow network stop fuel) = true ∨
      next? network (d.follow network stop fuel) = none := by
  -- by the fuel: each action spends some of the budget, which the fuel covers
  induction fuel generalizing d with
  | zero =>
    cases hn : next? network d with
    | none => exact .inr hn
    | some action =>
      obtain ⟨d', events, -, hlt, -⟩ := exists_step_of_next? hn
      exact absurd (Nat.lt_of_lt_of_le hlt hf) (Nat.not_lt_zero _)
  | succ fuel ih =>
    unfold follow
    split
    next hstop => exact .inl hstop
    · split
      next hn => exact .inr hn
      next action hn =>
        obtain ⟨d', events, hs, hlt, -⟩ := exists_step_of_next? hn
        rw [act_eq hs]
        exact ih (Nat.le_of_lt_succ (Nat.lt_of_lt_of_le hlt hf))

/-- What each step of the schedule preserves, as long as the condition does not hold, is so at the
end if it is so at the beginning. -/
theorem follow_invariant {P : Dispatcher → Prop} {stop : Dispatcher → Bool}
    (hP : ∀ d d' action events, P d → stop d = false → next? network d = some action →
      Step d action d' events → P d')
    (fuel : Nat) (hd : P d) : P (d.follow network stop fuel) := by
  -- along the fuel, where each action of the schedule is a step that keeps `P`
  induction fuel generalizing d with
  | zero => exact hd
  | succ fuel ih =>
    unfold follow
    split
    · exact hd
    next hstop =>
      split
      · exact hd
      next action hn =>
        obtain ⟨d', events, hs, -⟩ := exists_step_of_next? hn
        rw [act_eq hs]
        exact ih (hP d d' action events hd (by simpa using hstop) hn hs)

/-- An action that may or may not be possible is a run. -/
theorem exists_run_act (d : Dispatcher) (action : Action) :
    ∃ actions events, d.run actions = some (d.act action, events) := by
  unfold act
  split
  next d' events hs => exact ⟨[action], events, by simp [run, hs]⟩
  · exact ⟨[], [], rfl⟩

/-- To follow the schedule is to run. -/
theorem exists_run_follow (network : Network) (stop : Dispatcher → Bool) (fuel : Nat)
    (d : Dispatcher) :
    ∃ actions events, d.run actions = some (d.follow network stop fuel, events) := by
  refine follow_invariant (P := fun d' => ∃ actions events, d.run actions = some (d', events))
    (fun d₁ d₂ action events hr _ _ hs => ?_) fuel ⟨[], [], rfl⟩
  obtain ⟨actions, before, hr⟩ := hr
  have hlast : d₁.run [action] = some (d₂, events) := by simp [run, hs.step_eq]
  exact ⟨_, _, run_append hr hlast⟩

/-- Following the schedule up to a time does not go beyond it. -/
theorem now_follow_le {time : Nat} (hle : d.now ≤ time) (network : Network) (fuel : Nat) :
    (d.follow network (reaches network time) fuel).now ≤ time := by
  refine follow_invariant (P := fun d => d.now ≤ time)
    (fun d₁ d₂ action events hd hstop hn hs => ?_) fuel hle
  obtain ⟨d₃, events', hs', -, htime⟩ := exists_step_of_next? hn
  cases (act_eq hs).symm.trans (act_eq hs')
  rcases htime with hsame | ⟨hnone, hnext⟩
  · exact hsame ▸ hd
  · -- the condition does not hold, so that what is due is due before the time
    simp only [reaches, hnone, hnext, Option.isNone_none, Option.all_some, Bool.true_and,
      decide_eq_false_iff_not] at hstop
    exact Nat.le_of_lt (Nat.lt_of_not_le hstop)

/-- To run up to a time is to run until nothing is left that is due before it, and then to let the
rest of the time go by. -/
theorem exists_run_runUntil {time : Nat} (hle : d.now ≤ time) (network : Network) :
    ∃ d₁ actions events, d.run actions = some (d₁, events) ∧ reaches network time d₁ = true ∧
      Step d₁ (.advance (time - d₁.now)) (d.runUntil network time) [] ∧
      (d.runUntil network time).now = time := by
  obtain ⟨actions, events, hr⟩ := exists_run_follow network (reaches network time) d.budget d
  have hnow := now_follow_le hle network d.budget
  have hreaches : reaches network time (d.follow network (reaches network time) d.budget) := by
    rcases follow_ends network (reaches network time) (Nat.le_refl d.budget) with h | h
    · exact h
    · -- where nothing more happens, nothing is due
      obtain ⟨himmediate, htime⟩ := Option.or_eq_none_iff.1 h
      simp [reaches, himmediate, Option.map_eq_none_iff.1 htime]
  rw [runUntil]
  -- the state in which nothing is due before `time`, and from which the clock goes there
  generalize d.follow network (reaches network time) d.budget = d₁ at hr hnow hreaches ⊢
  have htime : d₁.now + (time - d₁.now) = time := Nat.add_sub_cancel' hnow
  have hs : Step d₁ (.advance (time - d₁.now)) { d₁ with now := d₁.now + (time - d₁.now) } [] := by
    refine .advance _ (allowsUntil_of_nextTime? ?_)
    rw [htime]
    simp only [reaches, Bool.and_eq_true] at hreaches
    exact hreaches.2
  rw [act_eq hs]
  exact ⟨d₁, actions, events, hr, hreaches, hs, htime⟩

end Dispatcher

end Webhook
