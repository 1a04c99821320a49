import Webhook.Proofs.Dispatcher.History

/-!
# First in, first out, one envelope at a time

`single_drain_in_order` holds of every run of a new dispatcher. Envelopes leave the queue in the
order in which they were accepted, each once, and a producer is refused exactly when its envelope
was not appended. A request is sent only in the course of the latest round, when all rounds before
it are settled. At most one envelope is being delivered, and none while the worker is idle.

The first and the second part are read off the history (`Run.follows`). The third is the history at
the moment of the request, to which the run is cut back (`Run.split`). The last ties the counters
and the published state to what the worker does (`Coherent`).
-/

namespace Webhook

namespace Dispatcher

variable {d d' : Dispatcher} {action : Action} {actions : List Action} {events : List Occurrence}

/-! ## Producers -/

/-- The envelopes that producers offer, in order. -/
def offers (actions : List Action) : List QueuedEnvelope :=
  actions.filterMap fun
    | .offer item => some item
    | _ => none

/-- The answers that producers have got: each offer has one; the offers that were accepted are those
whose envelopes were appended, up to the one that holds the lock to do so; the others are those that
were refused. -/
def Answers (pushes : List (QueuedEnvelope × Bool)) (actions : List Action) (h : History)
    (d : Dispatcher) : Prop :=
  pushes.map Prod.fst = offers actions ∧
    (pushes.filter (·.2)).map Prod.fst = h.accepted ++ d.queue.appending.toList ∧
    (pushes.filter (!·.2)).map Prod.fst = h.refused

/-- What a later action offers comes last. -/
theorem offers_append (actions : List Action) (action : Action) :
    offers (actions ++ [action]) = offers actions ++ offers [action] := List.filterMap_append

/-- A move offers nothing. -/
theorem offers_move (index : Nat) (move : Delivery.Move) : offers [move.action index] = [] := by
  cases move <;> rfl

/-- A step answers what it offers and keeps the earlier answers. -/
theorem Step.answers {pushes : List (QueuedEnvelope × Bool)} {h : History}
    (hs : Step d action d' events) (hp : Answers pushes actions h d) :
    ∃ pushes', Answers pushes' (actions ++ [action]) (events.foldl History.add h) d' := by
  obtain ⟨ho, ha, hn⟩ := hp
  simp only [Answers, offers_append, ← ho]
  cases hs with
  | refuse item hl hc =>
    refine ⟨pushes ++ [(item, false)], ?_, ?_, ?_⟩
    · simp [offers]
    · simpa [History.add] using ha
    · simpa [History.add] using hn
  | grant item hl hc =>
    -- the producer has its answer when it finds the queue open, and appends later
    rw [appending_eq_none hl] at ha
    refine ⟨pushes ++ [(item, true)], ?_, ?_, ?_⟩
    · simp [offers]
    · simpa [Queue.grant] using ha
    · simpa using hn
  | append item hi =>
    rw [hi] at ha
    exact ⟨pushes, by simp [offers], by simpa [History.add, Queue.append] using ha, hn⟩
  | take item later hw hl hp =>
    exact ⟨pushes, by simp [offers], by simpa [History.add] using ha, hn⟩
  | deliver index move x y he hw hx hm =>
    subst he
    rw [foldl_add_requestOf, offers_move]
    exact ⟨pushes, by simp, ha, hn⟩
  | _ => exact ⟨pushes, by simp [offers], ha, hn⟩

/-- Each offer of a run has its answer. -/
theorem Run.answers {config : Config} (hr : Run (create config) actions d events) :
    ∃ pushes, Answers pushes actions (History.of events) d := by
  induction hr with
  | start => exact ⟨[], rfl, rfl, rfl⟩
  | step hr hs ih =>
    obtain ⟨pushes, hp⟩ := ih
    rw [History.of_append]
    exact hs.answers hp

/-! ## Requests -/

/-- A request is sent in the course of the latest round. -/
theorem Step.serves {h : History} {x : Delivery} {time : Nat} {request : Http.Request}
    (hs : Step d action d' [.requested x time request]) (hf : h.Follows d) : h.Serves x := by
  obtain ⟨deliveries, index, move, x₀, -, hw, hx, hm, -⟩ := hs.of_requested
  -- deliveries are under way for the latest round only
  obtain ⟨round, hr⟩ := Option.isSome_iff_exists.1 (hf.opened _ hw)
  have haw := hf.latest round hr
  have htaken := hf.taken
  rw [hw] at haw htaken
  have hx₀ : x₀ ∈ deliveries := List.mem_of_getElem? hx
  obtain ⟨he, hv⟩ := Delivery.move?_frame hm
  refine ⟨h.earlier, round, by simp [History.rounds, hr], ?_, hf.earlier, ?_, ?_⟩
  · simpa [History.rounds, hr, Worker.held] using htaken
  · rw [hv]
    exact haw.envelope x₀ hx₀
  · rw [he]
    exact haw.endpoint x₀ hx₀

/-! ## The worker -/

/-- The counters and the published state agree with what the worker does. -/
structure Coherent (d : Dispatcher) : Prop where
  active : d.counters.activeFanOuts = d.worker.fanOuts
  peak : d.counters.peakFanOuts ≤ 1
  idle : d.queue.state = .idle → d.worker.held = none ∧ d.worker.fanOuts = 0

/-- Where no fan-out begins or ends, only the published state can cease to agree. -/
theorem Coherent.frame (hc : Coherent d)
    (hactive : d'.counters.activeFanOuts = d.counters.activeFanOuts)
    (hpeak : d'.counters.peakFanOuts = d.counters.peakFanOuts)
    (hworker : d'.worker.fanOuts = d.worker.fanOuts)
    (hi : d'.queue.state = .idle → d'.worker.held = none ∧ d'.worker.fanOuts = 0) :
    Coherent d' where
  active := by rw [hactive, hworker, hc.active]
  peak := hpeak ▸ hc.peak
  idle := hi

/-- A step keeps the counters in agreement with the worker. -/
theorem Step.coherent (hs : Step d action d' events) (hc : Coherent d) : Coherent d' := by
  have hactive := hc.active
  have hidle := hc.idle
  cases hs with
  | rest hw hl hp => exact hc.frame rfl rfl (by rw [hw]; rfl) fun _ => ⟨rfl, rfl⟩
  | park hw ha => exact hc.frame rfl rfl (by rw [hw]; rfl) fun _ => ⟨rfl, rfl⟩
  | stop hw ha => exact hc.frame rfl rfl (by rw [hw]; rfl) fun _ => ⟨rfl, rfl⟩
  | wake hw hp => exact hc.frame rfl rfl (by rw [hw]; rfl) fun _ => ⟨rfl, rfl⟩
  | take item later hw hl hp => exact hc.frame rfl rfl (by rw [hw]; rfl) (by simp)
  | drop item hw hr =>
    rw [hw] at hidle
    -- a worker that holds an envelope is not seen to be idle
    exact hc.frame rfl rfl (by rw [hw]; rfl) fun hs => absurd (hidle hs).1 (by simp [Worker.held])
  | fanOut item hw hr =>
    rw [hw] at hactive hidle
    refine ⟨?_, ?_, fun hs => absurd (hidle hs).1 (by simp [Worker.held])⟩
    · rw [hactive]
      rfl
    · -- no envelope was being delivered, so that this one makes one
      rw [hactive]
      exact Nat.max_le.2 ⟨hc.peak, Nat.le_refl 1⟩
  | deliver index move x y he hw hx hm =>
    rw [hw] at hidle
    exact hc.frame rfl rfl (by rw [hw]; rfl) hidle
  | record index x report hw hx hs =>
    rw [hw] at hidle
    exact hc.frame (Counters.add_activeFanOuts ..) (Counters.add_peakFanOuts ..)
      (by rw [hw]; rfl) hidle
  | finish hw =>
    rw [hw] at hactive
    refine ⟨?_, hc.peak, fun hs => ⟨rfl, rfl⟩⟩
    rw [hactive]
    rfl
  | _ => exact ⟨hc.active, hc.peak, hc.idle⟩

/-- In every reachable state the counters agree with the worker. -/
theorem Run.coherent {config : Config} (hr : Run (create config) actions d events) :
    Coherent d := by
  induction hr with
  | start => exact ⟨rfl, Nat.zero_le 1, fun _ => ⟨rfl, rfl⟩⟩
  | step hr hs ih => exact hs.coherent ih

/-- The worker has at most one fan-out under way. -/
theorem Coherent.active_le_one (hc : Coherent d) : d.counters.activeFanOuts ≤ 1 := by
  rw [hc.active]
  unfold Worker.fanOuts
  split <;> omega

/-! ## The order of a run -/

/-- In every run of a new dispatcher, the envelopes taken and then those in the queue are those
accepted, in order; each offer is answered, and refused exactly where its envelope is not appended;
a request serves the envelope taken last, all deliveries of those before it having come to an end;
and no more than one envelope is being delivered, none of them while the worker is idle. -/
theorem single_drain_in_order (config : Config) (actions : List Action)
    (h : (create config).run actions = some (d, events)) :
    (History.of events).accepted = (History.of events).taken ++ d.queue.pending ∧
      (∃ pushes, Answers pushes actions (History.of events) d) ∧
      (∀ before x time request after, events = before ++ .requested x time request :: after →
        (History.of before).Serves x) ∧
      d.counters.activeFanOuts ≤ 1 ∧
      (d.queue.state = .idle → d.counters.activeFanOuts = 0) ∧ d.counters.peakFanOuts ≤ 1 := by
  have hr := run_iff.1 h
  have hc := hr.coherent
  refine ⟨hr.follows.accepted, hr.answers, ?_, hc.active_le_one, ?_, hc.peak⟩
  · -- the rounds before are settled already in the state of the request
    intro before x time request after he
    obtain ⟨_, _, _, _, _, -, hb, hs, -⟩ := hr.split he
    exact hs.serves hb.follows
  · intro hi
    rw [hc.active]
    exact (hc.idle hi).2

/-- The session is in order. -/
theorem session_in_order : ∃ d events,
    (create Config.default).run Session.script = some (d, events) ∧
      (History.of events).accepted = (History.of events).taken ++ d.queue.pending ∧
      (∃ pushes, Answers pushes Session.script (History.of events) d) ∧
      (∀ before x time request after, events = before ++ .requested x time request :: after →
        (History.of before).Serves x) ∧ d.counters.peakFanOuts ≤ 1 := by
  obtain ⟨d, events, h, -⟩ := Session.exists_run
  obtain ⟨horder, hanswers, hserves, -, -, hpeak⟩ :=
    single_drain_in_order Config.default Session.script h
  exact ⟨d, events, h, horder, hanswers, hserves, hpeak⟩

end Dispatcher

end Webhook
