import Webhook.Dispatcher.Basic
import Webhook.Proofs.Delivery.Course

/-!
# The steps of a dispatcher as rules

`Step` gives one rule for each thing that an action can do, with all that the action asks for.
`step_iff` shows that the rules are the function `step`, so that a proof about all steps is a case
analysis on the rules. `Run` is the same for sequences of actions, built up at their end: a fact
about all runs is shown by induction on it, one step at a time (`run_iff`).
-/

namespace Webhook

namespace Queue

/-- Draining keeps what is pending. -/
@[simp]
theorem setDraining_pending (q : Queue) : q.setDraining.pending = q.pending := by
  unfold setDraining
  split <;> rfl

/-- Draining neither opens nor closes the queue. -/
@[simp]
theorem setDraining_accepting (q : Queue) : q.setDraining.accepting = q.accepting := by
  unfold setDraining
  split <;> rfl

/-- Draining keeps what is being appended. -/
@[simp]
theorem setDraining_appending (q : Queue) : q.setDraining.appending = q.appending := by
  unfold setDraining
  split <;> rfl

/-- Draining keeps the notifications owed. -/
@[simp]
theorem setDraining_unnotified (q : Queue) : q.setDraining.unnotified = q.unnotified := by
  unfold setDraining
  split <;> rfl

/-- Draining keeps the permit. -/
@[simp]
theorem setDraining_permit (q : Queue) : q.setDraining.permit = q.permit := by
  unfold setDraining
  split <;> rfl

/-- After it the queue is draining. -/
@[simp]
theorem setDraining_state (q : Queue) : q.setDraining.state = .draining := by
  unfold setDraining
  split
  next h => exact h
  · rfl

end Queue

namespace Counters

/-- A report is no dropped envelope. -/
@[simp]
theorem add_dropped (c : Counters) (r : Report) : (c.add r).dropped = c.dropped := by
  unfold add
  split <;> rfl

/-- A report neither begins nor ends a fan-out. -/
@[simp]
theorem add_activeFanOuts (c : Counters) (r : Report) :
    (c.add r).activeFanOuts = c.activeFanOuts := by
  unfold add
  split <;> rfl

/-- A report does not move the peak. -/
@[simp]
theorem add_peakFanOuts (c : Counters) (r : Report) :
    (c.add r).peakFanOuts = c.peakFanOuts := by
  unfold add
  split <;> rfl

end Counters

/-- The action that is a move of the delivery at a place. -/
def Delivery.Move.action (index : Nat) : Delivery.Move → Dispatcher.Action
  | .send => .send index
  | .reply r => .reply index r
  | .expire => .expire index

namespace Dispatcher

/-- A step of a dispatcher: the action, the dispatcher after it, and what has happened. -/
inductive Step (d : Dispatcher) : Action → Dispatcher → List Occurrence → Prop where
  /-- A producer finds the queue closed. -/
  | refuse (item : QueuedEnvelope) (hl : d.isUnlocked) (ha : d.queue.accepting = false) :
    Step d (.offer item) d [.refused item]
  /-- A producer finds the queue open. -/
  | grant (item : QueuedEnvelope) (hl : d.isUnlocked) (ha : d.queue.accepting = true) :
    Step d (.offer item) { d with queue := d.queue.grant item } []
  | append (item : QueuedEnvelope) (hi : d.queue.appending = some item) :
    Step d .append { d with queue := d.queue.append item } [.accepted item]
  | close (hl : d.isUnlocked) : Step d .close { d with queue := d.queue.close } []
  | closeNow : Step d .closeNow { d with queue := d.queue.close } []
  | notify (hu : d.queue.unnotified ≠ 0) : Step d .notify { d with queue := d.queue.notify } []
  | configure (action : RegistryAction) :
    Step d (.configure action) { d with registry := action.apply d.registry } []
  /-- The worker finds the queue empty. -/
  | rest (hw : d.worker = .ready) (hl : d.isUnlocked) (hp : d.queue.pending = []) :
    Step d .take { d with queue := d.queue.setIdle, worker := .checking } []
  /-- The worker takes the oldest envelope. -/
  | take (item : QueuedEnvelope) (later : List QueuedEnvelope) (hw : d.worker = .ready)
    (hl : d.isUnlocked) (hp : d.queue.pending = item :: later) :
    Step d .take { d with
      queue := Queue.setDraining { d.queue with pending := later }
      worker := .addressing item } [.taken item]
  /-- Nobody is to receive the envelope. -/
  | drop (item : QueuedEnvelope) (hw : d.worker = .addressing item)
    (hr : d.recipients item = []) :
    Step d .address { d with
      worker := .ready
      counters := { d.counters with dropped := d.counters.dropped + 1 } } [.addressed item []]
  /-- The deliveries of the envelope begin. -/
  | fanOut (item : QueuedEnvelope) (hw : d.worker = .addressing item)
    (hr : d.recipients item ≠ []) :
    Step d .address { d with
      worker := .delivering ((d.recipients item).map (Delivery.start d.now item.envelope))
      counters := { d.counters with
        activeFanOuts := d.counters.activeFanOuts + 1
        peakFanOuts := max d.counters.peakFanOuts (d.counters.activeFanOuts + 1) } }
      [.addressed item (d.recipients item)]
  /-- The worker finds the queue open, and waits. -/
  | park (hw : d.worker = .checking) (ha : d.queue.accepting = true) :
    Step d .decide { d with worker := .parked } []
  /-- The worker finds the queue closed, and ends. -/
  | stop (hw : d.worker = .checking) (ha : d.queue.accepting = false) :
    Step d .decide { d with worker := .ended } []
  | wake (hw : d.worker = .parked) (hp : d.queue.permit = true) :
    Step d .wake { d with queue := d.queue.wake, worker := .ready } []
  /-- A delivery moves. -/
  | deliver {action : Action} {deliveries : List Delivery} (index : Nat) (move : Delivery.Move)
    (x y : Delivery) (he : action = move.action index) (hw : d.worker = .delivering deliveries)
    (hx : deliveries[index]? = some x) (hm : x.move? d.sender d.now move = some y) :
    Step d action { d with worker := .delivering (deliveries.set index y) } (requestOf y d.now)
  | record {deliveries : List Delivery} (index : Nat) (x : Delivery) (report : Report)
    (hw : d.worker = .delivering deliveries) (hx : deliveries[index]? = some x)
    (hs : x.phase = .settled report) :
    Step d (.record index) { d with
      worker := .delivering (deliveries.eraseIdx index)
      counters := d.counters.add report
      reports := d.reports.send report } [.reported report]
  | finish (hw : d.worker = .delivering []) :
    Step d .finish { d with
      worker := .ready
      counters := { d.counters with activeFanOuts := d.counters.activeFanOuts - 1 } } []
  | await : Step d .await { d with waiters := d.waiters ++ [.looking d.queue.version] } []
  /-- One who waits finds envelopes in the queue. -/
  | lookBusy (index seen : Nat) (hi : d.waiters[index]? = some (.looking seen))
    (hl : d.isUnlocked) (hp : d.queue.pending ≠ []) :
    Step d (.look index) { d with waiters := d.waiters.set index (.blocked seen) } []
  /-- One who waits finds the queue empty and the worker idle. -/
  | lookIdle (index seen : Nat) (hi : d.waiters[index]? = some (.looking seen))
    (hl : d.isUnlocked) (hp : d.queue.pending = []) (hs : d.queue.state = .idle) :
    Step d (.look index) { d with waiters := d.waiters.set index .returned } []
  /-- One who waits finds the queue empty and the worker at work. -/
  | lookDraining (index seen : Nat) (hi : d.waiters[index]? = some (.looking seen))
    (hl : d.isUnlocked) (hp : d.queue.pending = []) (hs : d.queue.state ≠ .idle) :
    Step d (.look index) { d with waiters := d.waiters.set index (.blocked d.queue.version) } []
  | notice (index seen : Nat) (hi : d.waiters[index]? = some (.blocked seen))
    (hv : seen ≠ d.queue.version) :
    Step d (.notice index) { d with waiters := d.waiters.set index (.looking d.queue.version) } []
  | advance (ms : Nat) (ht : d.allowsUntil (d.now + ms)) :
    Step d (.advance ms) { d with now := d.now + ms } []

variable {d d' : Dispatcher} {action : Action} {events : List Occurrence}

/-! ## Rules and function -/

/-- An unlocked queue is not being appended to. -/
theorem appending_eq_none (hl : d.isUnlocked) : d.queue.appending = none := by
  simp only [isUnlocked, Bool.and_eq_true, Option.isNone_iff_eq_none] at hl
  exact hl.1

/-- While the queue is unlocked the worker does not look at it. -/
theorem worker_ne_checking (hl : d.isUnlocked) : d.worker ≠ .checking := by
  simp only [isUnlocked, Bool.and_eq_true, decide_eq_true_eq] at hl
  exact hl.2

/-- The deliveries' actions update the delivery at a place by a move. -/
theorem step_action (d : Dispatcher) (index : Nat) (move : Delivery.Move) :
    d.step (move.action index) = d.updateDelivery index (·.move? d.sender d.now move) := by
  cases move <;> rfl

/-- An update that goes through replaces the delivery at the index, in a worker that delivers. -/
theorem updateDelivery_eq_some {index : Nat} {f : Delivery → Option Delivery}
    (h : d.updateDelivery index f = some (d', events)) :
    ∃ deliveries x y, d.worker = .delivering deliveries ∧ deliveries[index]? = some x ∧
      f x = some y ∧ d' = { d with worker := .delivering (deliveries.set index y) } ∧
      events = requestOf y d.now := by
  unfold updateDelivery at h
  split at h
  next deliveries hw =>
    simp only [Option.bind_eq_bind, Option.bind_eq_some_iff] at h
    obtain ⟨x, hx, y, hy, he⟩ := h
    cases he
    exact ⟨deliveries, x, y, hw, hx, hy, rfl, rfl⟩
  · cases h

/-- A move that goes through is a step of its kind. -/
theorem step_of_move (index : Nat) (move : Delivery.Move)
    (h : d.step (move.action index) = some (d', events)) :
    Step d (move.action index) d' events := by
  rw [step_action] at h
  obtain ⟨deliveries, x, y, hw, hx, hy, rfl, rfl⟩ := updateDelivery_eq_some h
  exact .deliver index move x y rfl hw hx hy

/-- What the function gives is a step by one of the rules. -/
theorem Step.of_step (h : d.step action = some (d', events)) : Step d action d' events := by
  cases action with
  | send index => exact step_of_move index .send h
  | reply index reply => exact step_of_move index (.reply reply) h
  | expire index => exact step_of_move index .expire h
  | offer item =>
    simp only [step] at h
    split at h
    · cases h
    next hl =>
      rw [Bool.not_eq_true, Bool.not_eq_false'] at hl
      split at h <;> cases h
      next ha => exact .grant item hl ha
      next ha => exact .refuse item hl (by simpa using ha)
  | append =>
    simp only [step, Option.bind_eq_bind, Option.bind_eq_some_iff] at h
    obtain ⟨item, hi, he⟩ := h
    cases he
    exact .append item hi
  | close =>
    simp only [step] at h
    split at h <;> cases h
    next hl => exact .close hl
  | closeNow => cases h; exact .closeNow
  | notify =>
    simp only [step] at h
    split at h <;> cases h
    next hu => exact .notify hu
  | configure action => cases h; exact .configure action
  | take =>
    simp only [step] at h
    split at h
    next hg =>
      split at h <;> cases h
      next hp => exact .rest hg.1 hg.2 hp
      next item later hp => exact .take item later hg.1 hg.2 hp
    · cases h
  | address =>
    simp only [step] at h
    split at h
    next item hw =>
      simp only [addressItem, List.isEmpty_iff, Option.some.injEq, Prod.mk.injEq] at h
      obtain ⟨hd, rfl⟩ := h
      split at hd <;> subst hd
      next hr => rw [hr]; exact .drop item hw hr
      next hr => exact .fanOut item hw hr
    · cases h
  | decide =>
    simp only [step] at h
    split at h <;> cases h
    next hw =>
      cases ha : d.queue.accepting
      · exact .stop hw ha
      · exact .park hw ha
  | wake =>
    simp only [step] at h
    split at h <;> cases h
    next hg => exact .wake hg.1 hg.2
  | record index =>
    simp only [step] at h
    split at h
    next deliveries hw =>
      split at h <;> cases h
      next report hs =>
        obtain ⟨x, hx, hp⟩ := Option.map_eq_some_iff.1 hs
        exact .record index x report hw hx hp
    · cases h
  | finish =>
    simp only [step] at h
    split at h <;> cases h
    next hw => exact .finish hw
  | await => cases h; exact .await
  | look index =>
    simp only [step] at h
    split at h
    next seen hi =>
      split at h
      · cases h
      next hl =>
        rw [Bool.not_eq_true, Bool.not_eq_false'] at hl
        cases h
        -- the function decides in this order, of which each rule has one outcome
        by_cases hp : d.queue.pending = []
        · by_cases hs : d.queue.state = .idle
          · simpa [hp, hs] using Step.lookIdle index seen hi hl hp hs
          · simpa [hp, hs] using Step.lookDraining index seen hi hl hp hs
        · simpa [hp] using Step.lookBusy index seen hi hl hp
    · cases h
  | notice index =>
    simp only [step] at h
    split at h
    next seen hi =>
      split at h <;> cases h
      next hv => exact .notice index seen hi hv
    · cases h
  | advance ms =>
    simp only [step] at h
    split at h <;> cases h
    next ht => exact .advance ms ht

/-- The rules give nothing but what the function gives. -/
theorem Step.step_eq (h : Step d action d' events) : d.step action = some (d', events) := by
  -- the guards of each kind of step are what the branch of its action tests
  cases h with
  | deliver index move x y he hw hx hm =>
    rw [he, step_action]
    simp [updateDelivery, hw, hx, hm]
  | refuse item hl ha => simp [step, hl, ha]
  | grant item hl ha => simp [step, hl, ha]
  | append item hi => simp [step, hi]
  | close hl => simp [step, hl]
  | closeNow => rfl
  | notify hu => simp [step, hu]
  | configure action => rfl
  | rest hw hl hp => simp [step, hw, hl, hp]
  | take item later hw hl hp => simp [step, hw, hl, hp, takeItem]
  | drop item hw hr => simp [step, hw, addressItem, hr]
  | fanOut item hw hr => simp [step, hw, addressItem, hr]
  | park hw ha => simp [step, hw, ha]
  | stop hw ha => simp [step, hw, ha]
  | wake hw hp => simp [step, hw, hp]
  | record index x report hw hx hs => simp [step, hw, hx, hs]
  | finish hw => simp [step, hw]
  | await => rfl
  | lookBusy index seen hi hl hp => simp [step, hi, hl, hp]
  | lookIdle index seen hi hl hp hs => simp [step, hi, hl, hp, hs]
  | lookDraining index seen hi hl hp hs => simp [step, hi, hl, hp, hs]
  | notice index seen hi hv => simp [step, hi, hv]
  | advance ms ht => simp [step, ht]

/-- The rules are the function. -/
theorem step_iff : d.step action = some (d', events) ↔ Step d action d' events :=
  ⟨Step.of_step, Step.step_eq⟩

/-! ## What a step brings about -/

/-- A step brings about one thing at most. -/
theorem Step.events_cases (h : Step d action d' events) : events = [] ∨ ∃ o, events = [o] := by
  cases h with
  -- a move sends a request, or none
  | deliver index move x y he hw hx hm =>
    unfold requestOf
    split
    · exact .inr ⟨_, rfl⟩
    · exact .inl rfl
  | refuse => exact .inr ⟨_, rfl⟩
  | append => exact .inr ⟨_, rfl⟩
  | take => exact .inr ⟨_, rfl⟩
  | drop => exact .inr ⟨_, rfl⟩
  | fanOut => exact .inr ⟨_, rfl⟩
  | record => exact .inr ⟨_, rfl⟩
  | _ => exact .inl rfl

/-- A request is sent by a move of a delivery. -/
theorem Step.of_requested {x : Delivery} {time : Nat} {request : Http.Request}
    (hs : Step d action d' [.requested x time request]) :
    ∃ deliveries index move x₀, action = Delivery.Move.action index move ∧
      d.worker = .delivering deliveries ∧ deliveries[index]? = some x₀ ∧
      x₀.move? d.sender d.now move = some x ∧ time = d.now := by
  -- only a move makes a request
  generalize he : [Occurrence.requested x time request] = events at hs
  cases hs with
  | deliver index move x₀ y ha hw hx hm =>
    unfold requestOf at he
    split at he
    · cases he
      exact ⟨_, index, move, x₀, ha, hw, hx, hm, rfl⟩
    · cases he
  | _ => cases he

/-- A report is sent of a delivery that has come to an end. -/
theorem Step.of_reported {report : Report} (hs : Step d action d' [.reported report]) :
    ∃ (deliveries : List Delivery) (index : Nat) (x : Delivery),
      d.worker = .delivering deliveries ∧ deliveries[index]? = some x ∧
        x.phase = .settled report := by
  -- a report comes from a delivery that is recorded, as a move only makes requests
  generalize he : [Occurrence.reported report] = events at hs
  cases hs with
  | record index x report' hw hx hp =>
    cases he
    exact ⟨_, index, x, hw, hx, hp⟩
  | deliver index move x y ha hw hx hm =>
    unfold requestOf at he
    split at he <;> cases he
  | _ => cases he

/-! ## Runs -/

/-- A sequence of steps, built up at its end. -/
inductive Run (d₀ : Dispatcher) : List Action → Dispatcher → List Occurrence → Prop where
  | start : Run d₀ [] d₀ []
  | step {actions : List Action} {d : Dispatcher} {events : List Occurrence} {action : Action}
    {d' : Dispatcher} {more : List Occurrence} (hr : Run d₀ actions d events)
    (hs : Step d action d' more) : Run d₀ (actions ++ [action]) d' (events ++ more)

variable {d₀ : Dispatcher} {actions later : List Action} {more : List Occurrence}

/-- A run of several actions is a step and a run of the rest. -/
theorem run_cons_eq_some : d.run (action :: actions) = some (d', events) ↔
    ∃ d₁ first more, d.step action = some (d₁, first) ∧ d₁.run actions = some (d', more) ∧
      events = first ++ more := by
  constructor
  · intro h
    simp only [run, Option.bind_eq_bind, Option.bind_eq_some_iff] at h
    obtain ⟨⟨d₁, first⟩, hs, ⟨d₂, more⟩, hm, he⟩ := h
    cases he
    exact ⟨d₁, first, more, hs, hm, rfl⟩
  · rintro ⟨d₁, first, more, hs, hm, rfl⟩
    simp [run, hs, hm]

/-- A run goes on with the actions that the function takes. -/
theorem Run.append (hr : Run d₀ actions d events) (h : d.run later = some (d', more)) :
    Run d₀ (actions ++ later) d' (events ++ more) := by
  -- the run grows at its end, while the list of actions is taken from its front
  induction later generalizing actions d events more with
  | nil =>
    cases h
    simpa using hr
  | cons action later ih =>
    obtain ⟨d₁, first, next, hs, hn, rfl⟩ := run_cons_eq_some.1 h
    have := ih (hr.step (Step.of_step hs)) hn
    simpa only [List.append_assoc, List.singleton_append] using this

/-- The function takes the actions of two runs one after the other. -/
theorem run_append (h : d₀.run actions = some (d, events)) (h' : d.run later = some (d', more)) :
    d₀.run (actions ++ later) = some (d', events ++ more) := by
  induction actions generalizing d₀ events with
  | nil =>
    cases h
    simpa using h'
  | cons action actions ih =>
    obtain ⟨d₁, first, next, hs, hn, rfl⟩ := run_cons_eq_some.1 h
    exact run_cons_eq_some.2 ⟨d₁, first, next ++ more, hs, ih hn, List.append_assoc ..⟩

/-- The relation is the function. -/
theorem run_iff : d₀.run actions = some (d, events) ↔ Run d₀ actions d events := by
  constructor
  · intro h
    simpa using Run.start.append h
  · intro h
    induction h with
    | start => rfl
    | step hr hs ih =>
      refine run_append ih ?_
      simp [hs.step_eq, run]

/-- At each thing that has happened, a run divides into the steps before it, the step that has
brought it about, and the steps after it. -/
theorem Run.split {before after : List Occurrence} {o : Occurrence} (h : Run d₀ actions d events)
    (he : events = before ++ o :: after) :
    ∃ actions₁ action actions₂ d₁ d₂, actions = actions₁ ++ action :: actions₂ ∧
      Run d₀ actions₁ d₁ before ∧ Step d₁ action d₂ [o] ∧ Run d₂ actions₂ d after := by
  induction h generalizing after with
  | start => simp at he
  | @step actions d events action d' more hr hs ih =>
    rcases hs.events_cases with rfl | ⟨o', rfl⟩
    · -- nothing has happened in the last step
      obtain ⟨actions₁, action₁, actions₂, d₁, d₂, rfl, h₁, h₂, h₃⟩ := ih (by simpa using he)
      refine ⟨actions₁, action₁, actions₂ ++ [action], d₁, d₂, by simp, h₁, h₂, ?_⟩
      simpa using h₃.step hs
    · rcases List.eq_nil_or_concat after with rfl | ⟨after', last, rfl⟩
      · -- the last step of the run is the one
        obtain ⟨rfl, ho⟩ := List.append_inj' he rfl
        cases ho
        exact ⟨actions, action, [], d, d', rfl, hr, hs, .start⟩
      · -- the last step has brought about what comes after
        rw [List.concat_eq_append] at he ⊢
        rw [← List.cons_append, ← List.append_assoc] at he
        obtain ⟨hb, ho⟩ := List.append_inj' he rfl
        cases ho
        obtain ⟨actions₁, action₁, actions₂, d₁, d₂, rfl, h₁, h₂, h₃⟩ := ih hb
        exact ⟨actions₁, action₁, actions₂ ++ [action], d₁, d₂, by simp, h₁, h₂, h₃.step hs⟩

/-! ## A session -/

namespace Session

/-- An envelope for those who subscribe to its event. -/
def item (id : String) : QueuedEnvelope :=
  ⟨sampleEnvelope id, none⟩

/-- A test event for one endpoint. -/
def test (id : String) (target : EndpointId) : QueuedEnvelope :=
  ⟨sampleEnvelope id, some target⟩

/-- The registration of an endpoint that subscribes to one event. -/
def register (id : String) : Action :=
  .configure (.register ⟨[⟨id⟩], fun _ => 0⟩
    { Endpoint.New.of "http://a.test/hook" [.groupCreated] with secret := some "secret" })

/-- The delivery of an envelope to two endpoints, one of which answers when asked again, while a
test event comes for an endpoint that is gone when its turn comes. The queue is closed in between,
which a third producer finds out. -/
def script : List Action :=
  [register "one", register "two", .offer (item "first"), .append, .notify, .take, .address,
   .send 0, .send 1, .offer (test "second" ⟨"two"⟩), .append, .reply 0 (.response 503 none),
   .reply 1 (.response 204 none), .notify, .record 1, .closeNow, .notify, .offer (item "third"),
   .configure (.unregister ⟨"two"⟩), .advance 1000, .send 0, .reply 0 (.response 200 none),
   .record 0, .finish, .take, .address, .take, .decide]

/-- The session is possible, and the worker has ended with it. -/
theorem exists_run : ∃ d events, (create Config.default).run script = some (d, events) ∧
    d.worker = .ended := by
  have h : ((create Config.default).run script).any (·.1.worker = .ended) := by decide
  obtain ⟨⟨d, events⟩, hr, hw⟩ := (Option.any_eq_true _ _).1 h
  exact ⟨d, events, hr, of_decide_eq_true hw⟩

end Session

end Dispatcher

end Webhook
