import Webhook.Proofs.Dispatcher.History
import Webhook.Proofs.Dispatcher.Schedule
import Webhook.Proofs.Dispatcher.Waking

/-!
# Closing loses nothing

`closed_after_draining` is about the end of the worker, whichever way the queue was closed. Closing
without the lock can come between a producer's look at the queue and its append, and between the
worker's look at the queue and its look at the flag. The lock settles both (`Guarded`): what the
worker has found is still so when it ends. From there on nothing but refusals can happen
(`Step.of_ended`).

That the worker does end is shown for a dispatcher that is closed and then left to itself
(`Run.runOut_drains`). Its schedule comes to its end, and it cannot be at an end where the worker
waits without a wake-up, because a worker that so waits has an open queue (`Attentive`).
-/

namespace Webhook

/-- Every accepted envelope was taken, has had its recipients looked up, and is settled. -/
def History.IsDrained (h : History) : Prop :=
  h.taken = h.accepted ∧ h.rounds.map Round.item = h.accepted ∧ ∀ r ∈ h.rounds, r.IsSettled

/-- When the queue is empty and the worker has no envelope, all that was accepted is drained. -/
theorem History.Follows.isDrained {d : Dispatcher} {h : History} (hf : h.Follows d)
    (hp : d.queue.pending = []) (hh : d.worker.held = none) (hd : d.worker.deliveries = []) :
    h.IsDrained := by
  have haccepted := hf.accepted
  have htaken := hf.taken
  rw [hp, List.append_nil] at haccepted
  rw [hh, Option.toList_none, List.append_nil] at htaken
  exact ⟨haccepted.symm, by rw [haccepted, htaken], hf.settled hd⟩

namespace Dispatcher

variable {d d' : Dispatcher} {action : Action} {actions : List Action} {events : List Occurrence}

/-! ## After the worker has ended -/

/-- An ended worker has left nothing: what was accepted is drained. -/
theorem Run.isDrained {config : Config} (hr : Run (create config) actions d events)
    (hw : d.worker = .ended) : d.queue.pending = [] ∧ (History.of events).IsDrained := by
  have hp := (hr.guarded.ended hw).1
  exact ⟨hp, hr.follows.isDrained hp (by rw [hw]; rfl) (by rw [hw]; rfl)⟩

/-- When the worker has ended, nothing but refusals happen, and no counter changes. -/
theorem Step.of_ended (hs : Step d action d' events) (hg : Guarded d) (hw : d.worker = .ended) :
    d'.worker = .ended ∧ d'.counters = d.counters ∧ ∀ o ∈ events, ∃ item, o = .refused item := by
  obtain ⟨-, hn, ha⟩ := hg.ended hw
  -- the worker makes no step any more, and the closed queue takes nothing, nor has anybody still to
  -- append
  cases hs with
  | refuse item => exact ⟨hw, rfl, fun o ho => ⟨item, by simpa using ho⟩⟩
  | grant item hl hc => simp [ha] at hc
  | append item hi => simp [hn] at hi
  | rest hw' => simp [hw] at hw'
  | take item later hw' => simp [hw] at hw'
  | drop item hw' => simp [hw] at hw'
  | fanOut item hw' => simp [hw] at hw'
  | park hw' => simp [hw] at hw'
  | stop hw' => simp [hw] at hw'
  | wake hw' => simp [hw] at hw'
  | deliver index move x y he hw' => simp [hw] at hw'
  | record index x report hw' => simp [hw] at hw'
  | finish hw' => simp [hw] at hw'
  | _ => exact ⟨hw, rfl, by simp⟩

/-- Whatever comes after the worker has ended, nothing but refusals happen. -/
theorem Run.of_ended (hr : Run d actions d' events) (hg : Guarded d) (hw : d.worker = .ended) :
    Guarded d' ∧ d'.worker = .ended ∧ d'.counters = d.counters ∧
      ∀ o ∈ events, ∃ item, o = .refused item := by
  induction hr with
  | start => exact ⟨hg, hw, rfl, by simp⟩
  | step hr hs ih =>
    obtain ⟨hg', hw', hc, he⟩ := ih
    obtain ⟨hw'', hc', he'⟩ := hs.of_ended hg' hw'
    refine ⟨hs.guarded hg', hw'', hc'.trans hc, fun o ho => ?_⟩
    rcases List.mem_append.1 ho with ho | ho
    · exact he o ho
    · exact he' o ho

/-! ## After the queue is closed -/

/-- Both ways of closing close the queue. -/
theorem Step.closes (hs : Step d action d' events) (ha : action = .close ∨ action = .closeNow) :
    d'.queue.accepting = false := by
  rcases ha with rfl | rfl
  · cases hs with
    | close => rfl
    | deliver index move x y he => cases move <;> cases he
  · cases hs with
    | closeNow => rfl
    | deliver index move x y he => cases move <;> cases he

/-- A closed queue stays closed. -/
theorem Step.closed (hs : Step d action d' events) (ha : d.queue.accepting = false) :
    d'.queue.accepting = false := by
  cases hs with
  | take item later hw hl hp => simpa using ha
  | close => rfl
  | closeNow => rfl
  | _ => exact ha

/-- Once closed, the queue stays closed. -/
theorem Run.closed (hr : Run d actions d' events) (ha : d.queue.accepting = false) :
    d'.queue.accepting = false := by
  induction hr with
  | start => exact ha
  | step hr hs ih => exact hs.closed ih

/-- A producer that finds the queue closed changes nothing. -/
theorem Step.offer_closed {item : QueuedEnvelope} (hs : Step d (.offer item) d' events)
    (ha : d.queue.accepting = false) : d' = d ∧ events = [.refused item] := by
  cases hs with
  | refuse => exact ⟨rfl, rfl⟩
  | grant item hl hc => simp [ha] at hc
  | deliver index move x y he => cases move <;> cases he

/-! ## Calls -/

/-- An event is not taken when the queue is closed. -/
theorem enqueue_closed (item : QueuedEnvelope) (ha : d.queue.accepting = false) :
    d.enqueue item = .error .shutdown := by
  have hl := isUnlocked_release d
  have hc : d.release.queue.accepting = false := (accepting_release d).trans ha
  -- the producer gives the lock back, so that there is nothing to append
  have hn := appending_eq_none hl
  simp [enqueue, run, step, hl, hc, hn]

/-- An event is taken when the queue is open, even where a producer has held the lock: its envelope
comes last. -/
theorem enqueue_open (item : QueuedEnvelope) (ha : d.queue.accepting = true) :
    ∃ d', d.enqueue item = .ok d' ∧
      d.release.run [.offer item, .append, .notify] = some (d', [.accepted item]) ∧
      d'.queue.pending = d.queue.pending ++ d.queue.appending.toList ++ [item] := by
  have hl := isUnlocked_release d
  have hc : d.release.queue.accepting = true := (accepting_release d).trans ha
  -- with the lock free, the three actions are possible one after another
  have hrun : d.release.run [.offer item, .append, .notify] = some
      ({ d.release with queue := ((d.release.queue.grant item).append item).notify },
        [.accepted item]) := by
    simp [run, step, hl, hc, Queue.grant, Queue.append]
  refine ⟨_, ?_, hrun, ?_⟩
  · rw [enqueue, hrun]
  · rw [← pending_release]
    rfl

/-- A test event is not taken either, where there is an endpoint for it. -/
theorem sendTest_closed (ha : d.queue.accepting = false) (id : EventId) (clock : Timestamp)
    (target : EndpointId) : d.sendTest id clock target =
      if d.registry.contains target then some (.error .shutdown) else none := by
  rw [sendTest, enqueue_closed _ ha]

/-! ## Left to itself -/

/-- After these events, the dispatcher can go on to a state in which the worker has ended and all
that was accepted is drained. -/
def DrainsTo (d : Dispatcher) (events : List Occurrence) (d' : Dispatcher) : Prop :=
  ∃ more later, d.run more = some (d', later) ∧ d'.worker = .ended ∧ d'.queue.pending = [] ∧
    (History.of (events ++ later)).IsDrained

/-- What a later state drains to, the earlier one does. -/
theorem DrainsTo.of_run {d₁ : Dispatcher} {first : List Occurrence}
    (h : d.run actions = some (d₁, first)) (hd : DrainsTo d₁ (events ++ first) d') :
    DrainsTo d events d' := by
  obtain ⟨more, later, hm, hw, hp, hdrained⟩ := hd
  rw [List.append_assoc] at hdrained
  exact ⟨actions ++ more, first ++ later, run_append h hm, hw, hp, hdrained⟩

/-- A closed dispatcher that is left to itself comes to its end. -/
theorem Run.runOut_drains {config : Config} (hr : Run (create config) actions d events)
    (hc : d.queue.accepting = false) (network : Network) :
    DrainsTo d events (d.runOut network) := by
  obtain ⟨more, later, hm⟩ := exists_run_follow network (fun d => d.worker = .ended) d.budget d
  have hr' := hr.append hm
  -- the schedule stops at the goal, or where it knows no further action
  have hended : (d.runOut network).worker = .ended := by
    rcases follow_ends network (fun d => d.worker = .ended) (Nat.le_refl d.budget) with hw | hn
    · exact of_decide_eq_true hw
    · obtain ⟨-, hu, hw | ⟨hw, hp⟩⟩ := next?_eq_none hn
      · exact hw
      · -- a worker that waits has an open queue, or a call is still to wake it
        rcases hr'.attentive hw hp with ⟨-, hopen⟩ | hcall
        · rw [(run_iff.1 hm).closed hc] at hopen
          cases hopen
        · exact absurd hu (Nat.ne_of_gt hcall)
  obtain ⟨hp, hd⟩ := hr'.isDrained hended
  exact ⟨more, later, hm, hended, hp, hd⟩

/-- Whoever has closed the queue and notified the worker leaves the dispatcher to itself. -/
theorem Run.notify_drains {config : Config} (hr : Run (create config) actions d events)
    (hc : d.queue.accepting = false) (network : Network) :
    DrainsTo d events ((d.act .notify).runOut network) := by
  obtain ⟨more, later, hm⟩ := exists_run_act d .notify
  have hc' := (run_iff.1 hm).closed hc
  exact .of_run hm ((hr.append hm).runOut_drains hc' network)

/-- A shutdown drains the dispatcher, whoever holds the lock when it begins. -/
theorem Run.shutdown_drains {config : Config} (hr : Run (create config) actions d events)
    (network : Network) : DrainsTo d events (d.shutdown network) := by
  obtain ⟨actions₁, events₁, h₁⟩ := exists_run_act d .append
  obtain ⟨actions₂, events₂, h₂⟩ := exists_run_act (d.act .append) .decide
  obtain ⟨actions₃, events₃, h₃⟩ := exists_run_act d.release .close
  have hrun := run_append (run_append h₁ h₂) h₃
  have hclose : Step d.release .close { d.release with queue := d.release.queue.close } [] :=
    .close (isUnlocked_release d)
  have hc : (d.release.act .close).queue.accepting = false := by
    rw [act_eq hclose]
    rfl
  exact .of_run hrun ((hr.append hrun).notify_drains hc network)

/-- A dispatcher that is dropped and then left to itself is drained, even if it is dropped between a
producer's look at the queue and its append. -/
theorem Run.drop_drains {config : Config} (hr : Run (create config) actions d events)
    (network : Network) : DrainsTo d events (d.drop.runOut network) := by
  obtain ⟨more, later, hm⟩ := exists_run_act d .closeNow
  exact .of_run hm ((hr.append hm).notify_drains rfl network)

/-! ## The end -/

/-- In every run of a new dispatcher: when the worker has ended, the queue is empty, all that was
accepted is drained, and from then on nothing but refusals happen; a shutdown makes the worker end,
and so does a drop, with all drained that was accepted before or is still accepted by a producer
that has found the queue open; and once the queue was closed, every event is refused, and nothing
else changes. -/
theorem closed_after_draining (config : Config) (actions : List Action)
    (h : (create config).run actions = some (d, events)) :
    (d.worker = .ended → d.queue.pending = [] ∧ (History.of events).IsDrained ∧
      ∀ more d' later, d.run more = some (d', later) →
        d'.worker = .ended ∧ d'.queue.pending = [] ∧ d'.counters = d.counters ∧
          ∀ o ∈ later, ∃ item, o = .refused item) ∧
      (∀ network, DrainsTo d events (d.shutdown network) ∧
        DrainsTo d events (d.drop.runOut network)) ∧
      ∀ closing more d' later, closing = .close ∨ closing = .closeNow →
        d.run (closing :: more) = some (d', later) →
        d'.isRunning = false ∧
        (∀ item d'' now, d'.step (.offer item) = some (d'', now) →
          d'' = d' ∧ now = [.refused item]) ∧
          (∀ id clock eventType data metadata,
            d'.trigger id clock eventType data metadata = .error .shutdown) ∧
          ∀ id clock target, d'.sendTest id clock target =
            if d'.registry.contains target then some (.error .shutdown) else none := by
  have hr := run_iff.1 h
  refine ⟨fun hw => ?_, fun network => ⟨hr.shutdown_drains network, hr.drop_drains network⟩, ?_⟩
  · obtain ⟨hp, hd⟩ := hr.isDrained hw
    refine ⟨hp, hd, fun more d' later hm => ?_⟩
    obtain ⟨hg, hw', hc, he⟩ := (run_iff.1 hm).of_ended hr.guarded hw
    exact ⟨hw', (hg.ended hw').1, hc, he⟩
  · intro closing more d' later hclosing hm
    -- closed by the first action, the queue is so after all others
    obtain ⟨d₁, first, next, hs, hn, rfl⟩ := run_cons_eq_some.1 hm
    have hc := (run_iff.1 hn).closed ((Step.of_step hs).closes hclosing)
    exact ⟨hc, fun item d'' now ho => (Step.of_step ho).offer_closed hc,
      fun id clock eventType data metadata => enqueue_closed _ hc,
      fun id clock target => sendTest_closed hc id clock target⟩

/-- The session, which the worker has ended, has left nothing. Had it been shut down while its
second producer held the lock, an event would still have been taken before, and none after the queue
was closed. -/
theorem session_drained :
    (∃ d events, (create Config.default).run Session.script = some (d, events) ∧
      d.worker = .ended ∧ d.queue.pending = [] ∧ (History.of events).IsDrained) ∧
    ∃ d events, (create Config.default).run (Session.script.take 10) = some (d, events) ∧
      d.isUnlocked = false ∧ DrainsTo d events (d.shutdown unreachable) ∧
      (∃ d', d.enqueue (Session.item "third") = .ok d') ∧
      ∃ d', d.run [.closeNow] = some (d', []) ∧
        ∀ id clock data, d'.trigger id clock .groupCreated data none = .error .shutdown := by
  -- a run that came to its end, and one that a closing finds in the middle of a push
  constructor
  · obtain ⟨d, events, h, hw⟩ := Session.exists_run
    obtain ⟨hend, -, -⟩ := closed_after_draining Config.default Session.script h
    obtain ⟨hp, hd, -⟩ := hend hw
    exact ⟨d, events, h, hw, hp, hd⟩
  · -- the tenth action is the offer, after which the producer holds the lock
    have hlocked : ((create Config.default).run (Session.script.take 10)).any (fun result =>
        result.1.isUnlocked = false ∧ result.1.queue.accepting = true) := by
      decide
    obtain ⟨⟨d, events⟩, h, hstate⟩ := (Option.any_eq_true _ _).1 hlocked
    obtain ⟨hl, hopen⟩ := of_decide_eq_true hstate
    obtain ⟨-, hdrains, hclosed⟩ :=
      closed_after_draining Config.default (Session.script.take 10) h
    obtain ⟨d', htaken, -⟩ := enqueue_open (Session.item "third") hopen
    have hclose : d.run [.closeNow] = some ({ d with queue := d.queue.close }, []) := rfl
    obtain ⟨-, -, hrefused, -⟩ := hclosed _ _ _ _ (.inr rfl) hclose
    exact ⟨d, events, h, hl, (hdrains unreachable).1, ⟨d', htaken⟩, _, hclose,
      fun id clock data => hrefused id clock .groupCreated data none⟩

end Dispatcher

end Webhook
