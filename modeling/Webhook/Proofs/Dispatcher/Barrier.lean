import Webhook.Proofs.Dispatcher.Accounting
import Webhook.Proofs.Dispatcher.Closing
import Webhook.Proofs.Dispatcher.Order

/-!
# Waiting for the worker to be idle

`idle_barrier` is about those who wait until nothing is in the queue and the worker is idle. One who
waits returns only when the dispatcher is at rest (`AtRest`): what was accepted up to then, and so
all that was accepted before the waiting began, has been delivered, reported and counted. And nobody
is left behind: where the queue is empty and the worker idle, whoever waits for a change of the
worker's state has one to notice.

The state that others see of the worker tells what it does (`Coherent`), which is the first part.
The second is the invariant `Waiter.IsServed`. A state that one who waits has seen is followed by a
newer one, or is such that a newer one must come before the worker is idle with nothing to do: an
envelope is in the queue or the worker is draining. To become idle always counts as a change, and to
take an envelope does where the worker was idle.
-/

namespace Webhook

/-- What was accepted stays accepted, in order. -/
theorem History.accepted_prefix (events more : List Dispatcher.Occurrence) :
    (History.of events).accepted <+: (History.of (events ++ more)).accepted := by
  -- one occurrence appends to what was accepted, or leaves it
  have hadd : ∀ (h : History) (o : Dispatcher.Occurrence), h.accepted <+: (h.add o).accepted := by
    intro h o
    cases o with
    | accepted item => exact List.prefix_append _ _
    | _ => exact List.prefix_rfl
  rw [History.of_append]
  induction more generalizing events with
  | nil => exact List.prefix_rfl
  | cons o more ih =>
    have hrest := ih (events ++ [o])
    rw [History.of_append] at hrest
    exact (hadd _ o).trans hrest

/-- A worker that delivers no envelope has no open deliveries. -/
theorem Worker.deliveries_of_fanOuts {w : Worker} (hw : w.fanOuts = 0) : w.deliveries = [] := by
  cases w with
  | delivering deliveries => cases hw
  | _ => rfl

/-- One who waits has seen no version that is still to come; and where it is blocked, a newer one is
there, or must come before the worker is idle with nothing to do. -/
def Waiter.IsServed (q : Queue) : Waiter → Prop
  | .looking seen => seen ≤ q.version
  | .blocked seen => seen < q.version ∨ seen = q.version ∧ (q.pending ≠ [] ∨ q.state = .draining)
  | .returned => True

/-- A queue with a newer version serves those who wait, and so does one in which something is still
to be done if it was before. -/
theorem Waiter.IsServed.of_queue {q q' : Queue} {w : Waiter} (hw : w.IsServed q)
    (hq : q.version < q'.version ∨ q'.version = q.version ∧
      (q.pending ≠ [] ∨ q.state = .draining → q'.pending ≠ [] ∨ q'.state = .draining)) :
    w.IsServed q' := by
  cases w with
  | returned => trivial
  | looking seen =>
    have hle : seen ≤ q.version := hw
    have hle' : q.version ≤ q'.version := by
      rcases hq with hlt | ⟨heq, -⟩ <;> omega
    exact Nat.le_trans hle hle'
  | blocked seen =>
    -- a newer version is noticed; under the same one the queue still has work to do
    rcases hq with hlt | ⟨heq, hbusy⟩
    · left
      rcases hw with hs | ⟨hs, -⟩ <;> omega
    · rcases hw with hs | ⟨hs, hb⟩
      · exact .inl (heq ▸ hs)
      · exact .inr ⟨hs.trans heq.symm, hbusy hb⟩

namespace Dispatcher

variable {d d₀ d' : Dispatcher} {action : Action} {actions : List Action}
  {events : List Occurrence} {index : Nat}

/-! ## Those who wait -/

/-- A step leaves those who wait alone, or one more begins to wait, or one of them moves on; it
returns only by a look that finds the queue empty and the worker idle. -/
theorem Step.waiters_cases (hs : Step d action d' events) :
    d'.waiters = d.waiters ∨
    (action = .await ∧ d'.waiters = d.waiters ++ [.looking d.queue.version]) ∨
    ∃ index next, d'.waiters = d.waiters.set index next ∧
      (next = .returned → action = .look index ∧ events = [] ∧ d.queue.pending = [] ∧
        d.queue.state = .idle) := by
  -- those who wait look, or notice a change; all other steps leave them alone
  cases hs with
  | await => exact .inr (.inl ⟨rfl, rfl⟩)
  | lookBusy index seen hi hl hp => exact .inr (.inr ⟨index, _, rfl, by simp⟩)
  | lookIdle index seen hi hl hp hs =>
    exact .inr (.inr ⟨index, _, rfl, fun _ => ⟨rfl, rfl, hp, hs⟩⟩)
  | lookDraining index seen hi hl hp hs => exact .inr (.inr ⟨index, _, rfl, by simp⟩)
  | notice index seen hi hv => exact .inr (.inr ⟨index, _, rfl, by simp⟩)
  | _ => exact .inl rfl

/-- Those who wait keep their places. -/
theorem Step.length_waiters (hs : Step d action d' events) :
    d'.waiters.length = d.waiters.length ∨
      (action = .await ∧ d'.waiters.length = d.waiters.length + 1) := by
  rcases hs.waiters_cases with h | ⟨ha, h⟩ | ⟨index, next, h, -⟩
  · exact .inl (by rw [h])
  · exact .inr ⟨ha, by rw [h, List.length_append, List.length_singleton]⟩
  · exact .inl (by rw [h, List.length_set])

/-- One who has just returned has looked, and found the queue empty and the worker idle. -/
theorem Step.of_returned (hs : Step d action d' events)
    (hi : d'.waiters[index]? = some .returned) (hn : d.waiters[index]? ≠ some .returned) :
    action = .look index ∧ events = [] ∧ d.queue.pending = [] ∧ d.queue.state = .idle := by
  -- the waiters are as they were, one is new, or one has looked
  rcases hs.waiters_cases with h | ⟨-, h⟩ | ⟨place, next, h, hnext⟩
  · rw [h] at hi
    exact absurd hi hn
  · rw [h, List.getElem?_append] at hi
    split at hi
    · exact absurd hi hn
    · -- one who begins to wait has not returned
      have := List.mem_of_getElem? hi
      simp at this
  · rw [h] at hi
    -- only the waiter who looked can have changed
    by_cases hplace : place = index
    · subst hplace
      rw [List.getElem?_set] at hi
      simp only [↓reduceIte] at hi
      split at hi
      · exact hnext (Option.some.inj hi)
      · cases hi
    · rw [List.getElem?_set_ne hplace] at hi
      exact absurd hi hn

/-- Whoever waits in a run has begun to wait in its course. -/
theorem Run.exists_await (hr : Run d₀ actions d events) (h₀ : d₀.waiters = [])
    (hi : index < d.waiters.length) :
    ∃ before between d₁ earlier since, actions = before ++ .await :: between ∧
      Run d₀ before d₁ earlier ∧ d₁.waiters.length = index ∧
      d₁.run (.await :: between) = some (d, since) ∧ events = earlier ++ since := by
  induction hr with
  | start =>
    rw [h₀] at hi
    exact absurd hi (Nat.not_lt_zero _)
  | @step actions d events action d' more hr hs ih =>
    have hstep : d.run [action] = some (d', more) := by simp [run, hs.step_eq]
    -- the waiter was there before the last action, or came with it
    by_cases hlt : index < d.waiters.length
    · obtain ⟨before, between, d₁, earlier, since, rfl, hb, hl, hrun, rfl⟩ := ih hlt
      refine ⟨before, between ++ [action], d₁, earlier, since ++ more, by simp, hb, hl, ?_, by simp⟩
      exact run_append hrun hstep
    · -- the place is new, so that the last action is the one
      rcases hs.length_waiters with h | ⟨rfl, h⟩
      · omega
      · exact ⟨actions, [], d, events, more, rfl, hr, by omega, hstep, rfl⟩

/-- Whoever has returned in a run has done so by a look. -/
theorem Run.exists_look (hr : Run d₀ actions d events) (h₀ : d₀.waiters = [])
    (hi : d.waiters[index]? = some .returned) :
    ∃ before after d₁ d₂ earlier, actions = before ++ .look index :: after ∧
      Run d₀ before d₁ earlier ∧ Step d₁ (.look index) d₂ [] ∧
      d₂.waiters[index]? = some .returned ∧ d₁.queue.pending = [] ∧ d₁.queue.state = .idle := by
  induction hr with
  | start =>
    rw [h₀] at hi
    cases hi
  | @step actions d events action d' more hr hs ih =>
    -- it had returned before the last step, or does so with it
    by_cases hd : d.waiters[index]? = some .returned
    · obtain ⟨before, after, d₁, d₂, earlier, rfl, h⟩ := ih hd
      exact ⟨before, after ++ [action], d₁, d₂, earlier, by simp, h⟩
    · obtain ⟨rfl, rfl, hp, hst⟩ := hs.of_returned hi hd
      exact ⟨actions, [], d, d', events, rfl, hr, hs, hi, hp, hst⟩

/-! ## At rest -/

/-- Nothing is in the queue, and nothing is being delivered. All that was accepted has been
delivered and reported, and the counters say so. -/
structure AtRest (d : Dispatcher) (events : List Occurrence) : Prop where
  pending : d.queue.pending = []
  held : d.worker.held = none
  fanOuts : d.worker.fanOuts = 0
  drained : (History.of events).IsDrained
  reports : (History.of events).reports = reportsIn events
  delivered : d.counters.delivered = (reportsIn events).countP Report.isSuccess
  failed : d.counters.failed = (reportsIn events).countP fun r => !r.isSuccess
  dropped : d.counters.dropped =
    ((History.of events).rounds.map Round.recipients).countP List.isEmpty

/-- A new dispatcher that is seen idle with an empty queue is at rest. -/
theorem Run.atRest {config : Config} (hr : Run (create config) actions d events)
    (hp : d.queue.pending = []) (hs : d.queue.state = .idle) : AtRest d events := by
  obtain ⟨hheld, hfanOuts⟩ := hr.coherent.idle hs
  exact {
    pending := hp
    held := hheld
    fanOuts := hfanOuts
    drained := hr.follows.isDrained hp hheld (Worker.deliveries_of_fanOuts hfanOuts)
    reports := hr.recorded.reports
    delivered := hr.tallies.delivered
    failed := hr.tallies.failed
    dropped := hr.recorded.dropped }

/-! ## Coming to rest -/

/-- A worker that has found the queue empty, and has not looked again, is seen to be idle. -/
def SeenIdle (d : Dispatcher) : Prop :=
  d.worker = .checking ∨ d.worker = .parked ∨ d.worker = .ended → d.queue.state = .idle

/-- Nothing is asked where the worker is about to do something. -/
theorem SeenIdle.of_worker (h₁ : d.worker ≠ .checking) (h₂ : d.worker ≠ .parked)
    (h₃ : d.worker ≠ .ended) : SeenIdle d := by
  rintro (h | h | h)
  · exact absurd h h₁
  · exact absurd h h₂
  · exact absurd h h₃

/-- Only a worker that takes an envelope is seen to deliver. -/
theorem Step.seenIdle (hs : Step d action d' events) (hd : SeenIdle d) : SeenIdle d' := by
  cases hs with
  -- the worker becomes idle when it finds the queue empty, and parks or ends from there
  | rest => exact fun _ => rfl
  | park hw => exact fun _ => hd (.inl hw)
  | stop hw => exact fun _ => hd (.inl hw)
  | take => exact .of_worker (by simp) (by simp) (by simp)
  | drop => exact .of_worker (by simp) (by simp) (by simp)
  | fanOut => exact .of_worker (by simp) (by simp) (by simp)
  | wake => exact .of_worker (by simp) (by simp) (by simp)
  | deliver => exact .of_worker (by simp) (by simp) (by simp)
  | record => exact .of_worker (by simp) (by simp) (by simp)
  | finish => exact .of_worker (by simp) (by simp) (by simp)
  | _ => exact hd

/-- A worker of a new dispatcher that has found the queue empty is seen to be idle. -/
theorem Run.seenIdle {config : Config} (hr : Run (create config) actions d events) :
    SeenIdle d := by
  induction hr with
  | start => exact .of_worker (by simp [create]) (by simp [create]) (by simp [create])
  | step hr hs ih => exact hs.seenIdle ih

/-- Where nothing more happens by itself, nobody holds the lock, the queue is empty, and the worker
is seen to be idle. -/
theorem Run.isQuiet_of_next? {config : Config} {network : Network}
    (hr : Run (create config) actions d events) (h : next? network d = none) :
    d.isUnlocked ∧ d.queue.isQuiet := by
  obtain ⟨hn, hu, hw⟩ := next?_eq_none h
  rcases hw with hw | ⟨hw, hp⟩
  · have hempty := (hr.guarded.ended hw).1
    have hidle := hr.seenIdle (.inr (.inr hw))
    simp [isUnlocked, Queue.isQuiet, hn, hw, hempty, hidle]
  · have hidle := hr.seenIdle (.inr (.inl hw))
    rcases hr.attentive hw hp with ⟨hempty, -⟩ | hcall
    · simp [isUnlocked, Queue.isQuiet, hn, hw, hempty, hidle]
    · exact absurd hu (Nat.ne_of_gt hcall)

/-- A dispatcher that is left to itself comes to rest. -/
theorem Run.runQuiet_atRest {config : Config} (hr : Run (create config) actions d events)
    (network : Network) : ∃ more later, d.run more = some (d.runQuiet network, later) ∧
      (d.runQuiet network).isUnlocked ∧ AtRest (d.runQuiet network) (events ++ later) := by
  obtain ⟨more, later, hm⟩ :=
    exists_run_follow network (fun d => d.isUnlocked && d.queue.isQuiet) d.budget d
  have hr' := hr.append hm
  -- the schedule stops at the goal, or where it knows no further action
  have hquiet : (d.runQuiet network).isUnlocked ∧ (d.runQuiet network).queue.isQuiet := by
    rcases follow_ends network (fun d => d.isUnlocked && d.queue.isQuiet)
      (Nat.le_refl d.budget) with h | h
    · exact Bool.and_eq_true_iff.1 h
    · exact hr'.isQuiet_of_next? h
  obtain ⟨hl, hq⟩ := hquiet
  obtain ⟨hp, hs⟩ : (d.runQuiet network).queue.pending = [] ∧
      (d.runQuiet network).queue.state = .idle := by
    simpa [Queue.isQuiet] using hq
  exact ⟨more, later, hm, hl, hr'.atRest hp hs⟩

/-! ## Nobody is left behind -/

/-- All who wait are served. -/
def Serving (d : Dispatcher) : Prop := ∀ w ∈ d.waiters, w.IsServed d.queue

/-- All who waited are served by a queue that serves them, and so are those who wait now. -/
theorem Serving.of_queue {q : Queue} (hd : Serving d)
    (hq : d.queue.version < q.version ∨ q.version = d.queue.version ∧
      (d.queue.pending ≠ [] ∨ d.queue.state = .draining → q.pending ≠ [] ∨ q.state = .draining)) :
    Serving { d with queue := q } := fun w hw => (hd w hw).of_queue hq

/-- One who waits and moves on is served where it then is. -/
theorem Serving.set {next : Waiter} (hd : Serving d) (hn : next.IsServed d.queue) (index : Nat) :
    Serving { d with waiters := d.waiters.set index next } := by
  intro w hw
  rcases List.mem_or_eq_of_mem_set hw with hw | rfl
  · exact hd w hw
  · exact hn

/-- A step leaves all who wait served. -/
theorem Step.serving (hs : Step d action d' events) (hd : Serving d) : Serving d' := by
  cases hs with
  -- what is appended is something to be done
  | append item hi => exact hd.of_queue (.inr ⟨rfl, fun _ => .inl (by simp [Queue.append])⟩)
  | rest hw hl hp =>
    -- to become idle counts as a change
    exact hd.of_queue (.inl (Nat.lt_succ_self _))
  | take item later hw hl hp =>
    refine fun w hmem => (hd w hmem).of_queue ?_
    cases hstate : d.queue.state with
    | idle => exact .inl (by simp [Queue.setDraining, hstate])
    | draining => exact .inr ⟨by simp [Queue.setDraining, hstate], fun _ => .inr (by simp)⟩
  | await =>
    intro w hw
    rcases List.mem_append.1 hw with hw | hw
    · exact hd w hw
    · rw [List.mem_singleton.1 hw]
      exact Nat.le_refl _
  | lookBusy index seen hi hl hp =>
    have hle : seen ≤ d.queue.version := hd _ (List.mem_of_getElem? hi)
    have hserved : Waiter.IsServed d.queue (.blocked seen) := by
      rcases Nat.lt_or_eq_of_le hle with hlt | heq
      · exact .inl hlt
      · exact .inr ⟨heq, .inl hp⟩
    exact hd.set hserved index
  | lookIdle index seen hi hl hp hs =>
    have hserved : Waiter.IsServed d.queue .returned := trivial
    exact hd.set hserved index
  | lookDraining index seen hi hl hp hs =>
    have hdraining : d.queue.state = .draining := by
      cases hstate : d.queue.state with
      | idle => exact absurd hstate hs
      | draining => rfl
    have hserved : Waiter.IsServed d.queue (.blocked d.queue.version) := .inr ⟨rfl, .inr hdraining⟩
    exact hd.set hserved index
  | notice index seen hi hv =>
    have hserved : Waiter.IsServed d.queue (.looking d.queue.version) := Nat.le_refl _
    exact hd.set hserved index
  | _ => exact fun w hmem => (hd w hmem).of_queue (.inr ⟨rfl, id⟩)

/-- In a run of a new dispatcher, all who wait are served. -/
theorem Run.serving {config : Config} (hr : Run (create config) actions d events) : Serving d := by
  induction hr with
  | start => simp [Serving, create]
  | step hr hs ih => exact hs.serving ih

/-- Where the queue is empty and the worker is seen idle, there is a newer version than one who is
blocked has seen. -/
theorem Serving.lt_version {seen : Nat} (hd : Serving d)
    (hi : d.waiters[index]? = some (.blocked seen)) (hp : d.queue.pending = [])
    (hs : d.queue.state = .idle) : seen < d.queue.version := by
  rcases hd _ (List.mem_of_getElem? hi) with hlt | ⟨-, hbusy | hbusy⟩
  · exact hlt
  · exact absurd hp hbusy
  · rw [hs] at hbusy
    cases hbusy

/-! ## The barrier -/

/-- In every run of a new dispatcher: one who waits for it to be idle and has returned has done so
at a moment when the dispatcher was at rest, with all settled that was accepted before the waiting
began; and one who is blocked while the queue is empty and the worker idle has seen an older version
of the worker's state than the current one, and can notice it. -/
theorem idle_barrier (config : Config) (actions : List Action)
    (h : (create config).run actions = some (d, events)) :
    (∀ index, d.waiters[index]? = some .returned →
      ∃ before between after d₀ d₁ d₂ earlier since,
        actions = before ++ .await :: between ++ .look index :: after ∧
        (create config).run before = some (d₀, earlier) ∧ d₀.waiters.length = index ∧
        d₀.run (.await :: between) = some (d₁, since) ∧
        d₁.step (.look index) = some (d₂, []) ∧ d₂.waiters[index]? = some .returned ∧
        AtRest d₁ (earlier ++ since) ∧
        (History.of earlier).accepted <+: (History.of (earlier ++ since)).rounds.map Round.item) ∧
      ∀ index seen, d.waiters[index]? = some (.blocked seen) → d.queue.pending = [] →
        d.queue.state = .idle →
          seen < d.queue.version ∧ ∃ d', d.step (.notice index) = some (d', []) := by
  have hr := run_iff.1 h
  constructor
  · intro index hi
    obtain ⟨before, after, d₁, d₂, earlier, rfl, hb, hlook, hi₂, hp, hs⟩ := hr.exists_look rfl hi
    have hrest := hb.atRest hp hs
    -- the place that returns is one of those who waited before the look
    have hlt : index < d₁.waiters.length := by
      obtain ⟨hlt, -⟩ := List.getElem?_eq_some_iff.1 hi₂
      rcases hlook.length_waiters with hl | ⟨ha, -⟩
      · omega
      · cases ha
    obtain ⟨before, between, d₀, earlier, since, rfl, hawait, hl, hrun, rfl⟩ :=
      hb.exists_await rfl hlt
    refine ⟨before, between, after, d₀, d₁, d₂, earlier, since, rfl, run_iff.2 hawait, hl, hrun,
      hlook.step_eq, hi₂, hrest, ?_⟩
    rw [hrest.drained.2.1]
    exact History.accepted_prefix earlier since
  · intro index seen hi hp hs
    have hlt := hr.serving.lt_version hi hp hs
    refine ⟨hlt, ?_⟩
    exact ⟨_, (Step.notice index seen hi (Nat.ne_of_lt hlt)).step_eq⟩

/-- Two wait while an envelope is delivered. When the worker is idle again, one of them has
returned, and the other has not looked yet. -/
def Session.waiting : List Action :=
  [register "one", .offer (item "first"), .append, .notify, .await, .look 0, .take, .notice 0,
   .look 0, .await, .address, .send 0, .reply 0 (.response 200 none), .record 0, .finish, .take,
   .decide, .look 1]

/-- The one who has returned found the dispatcher at rest, and the other can go on. -/
theorem waiting_served : ∃ d events,
    (create Config.default).run Session.waiting = some (d, events) ∧
      d.waiters = [.blocked 1, .returned] ∧
      (∃ before d₁ sent, (create Config.default).run before = some (d₁, sent) ∧ AtRest d₁ sent) ∧
      1 < d.queue.version ∧ ∃ d', d.step (.notice 0) = some (d', []) := by
  have hwaiting : ((create Config.default).run Session.waiting).any (fun result =>
      result.1.waiters = [.blocked 1, .returned] ∧ result.1.queue.pending = [] ∧
        result.1.queue.state = .idle) := by
    decide
  obtain ⟨⟨d, events⟩, h, hstate⟩ := (Option.any_eq_true _ _).1 hwaiting
  obtain ⟨hwaiters, hp, hs⟩ := of_decide_eq_true hstate
  simp only at hwaiters hp hs
  obtain ⟨hreturned, hblocked⟩ := idle_barrier Config.default Session.waiting h
  -- the first of the two has returned, and the second can notice the newer version
  obtain ⟨before, between, after, d₀, d₁, d₂, earlier, since, -, hb, -, hrun, -, -, hrest, -⟩ :=
    hreturned 1 (by rw [hwaiters]; rfl)
  obtain ⟨hlt, hnotice⟩ := hblocked 0 1 (by rw [hwaiters]; rfl) hp hs
  exact ⟨d, events, h, hwaiters, ⟨_, d₁, _, run_append hb hrun, hrest⟩, hlt, hnotice⟩

end Dispatcher

end Webhook
