import Webhook.Proofs.Delivery.Alone
import Webhook.Proofs.Dispatcher.Recipients

/-!
# Fan-outs

The deliveries of one envelope from their start to their end, as runs of a dispatcher in which the
servers are given (`FanOut.run?`). A request is answered as `Servers` says, depending on the
requests to the same recipient and not on those to others. A delivery does what comes next in it
when the time for that has come, and no later, but in any order with what happens elsewhere at that
time. Everything else that a dispatcher can do meanwhile, such as to take further events, remains
possible at any time.

Each delivery is followed by itself (`FanOut.OnCourse`): where it stands is a stage that it would
reach alone. A move of one delivery takes this one to its next stage and leaves the others where
they are, since the endpoints are different. So all deliveries stay on their course, and with them
the reports (`FanOut.Keeps`).
-/

namespace Webhook

open Delivery (Stage)

/-- What is answered in the delivery to each endpoint. -/
abbrev Servers := EndpointId → Http.Answers

namespace Dispatcher

variable {d d' : Dispatcher} {action : Action} {actions later : List Action}
  {events more : List Occurrence} {id : EndpointId} {start : Nat}

/-! ## Fan-outs -/

/-- The requests in the delivery to an endpoint, oldest first, with times from a moment. -/
def sentTo (id : EndpointId) (start : Nat) (events : List Occurrence) :
    List (Nat × Http.Request) :=
  events.filterMap fun
    | .requested x time r => if x.endpoint.id = id then some (time - start, r) else none
    | _ => none

/-- What later events send comes after what earlier ones sent. -/
theorem sentTo_append :
    sentTo id start (events ++ more) = sentTo id start events ++ sentTo id start more :=
  List.filterMap_append

/-- A move sends its own endpoint the request the delivery makes then, and no other endpoint
anything. -/
theorem sentTo_requestOf (x : Delivery) (now : Nat) : sentTo id start (requestOf x now) =
    if x.endpoint.id = id then (x.since start).requestAt (now - start) else [] := by
  by_cases he : x.endpoint.id = id <;> cases hp : x.phase <;>
    simp [sentTo, requestOf, Delivery.requestAt, Delivery.since, Delivery.Phase.since, hp, he]

/-- Events about no delivery send nothing. -/
theorem sentTo_of_other (hn : ∀ o ∈ events, o.isOfDelivery = false ∧ o.isAddressed = false) :
    sentTo id start events = [] := by
  refine List.filterMap_eq_nil_iff.2 fun o ho => ?_
  cases o with
  | requested x time r => cases (hn _ ho).1
  | _ => rfl

/-- Events about no delivery report nothing. -/
theorem reportsIn_of_other (hn : ∀ o ∈ events, o.isOfDelivery = false ∧ o.isAddressed = false) :
    reportsIn events = [] := by
  refine List.filterMap_eq_nil_iff.2 fun o ho => ?_
  cases o with
  | reported r => cases (hn _ ho).1
  | _ => rfl

/-- The worker begins to deliver an envelope to these endpoints, which are different. -/
structure Begins (d : Dispatcher) (envelope : Envelope) (endpoints : List Endpoint) : Prop where
  worker : d.worker = .delivering (endpoints.map (Delivery.start d.now envelope))
  distinct : (endpoints.map Endpoint.id).Nodup

/-- The worker that has looked up recipients begins to deliver to them, if there are any. -/
theorem begins_of_address {config : Config} {before now : List Occurrence}
    (h : (create config).run actions = some (d, before)) (hs : d.step .address = some (d', now))
    (hw : d'.worker.fanOuts = 1) :
    ∃ item, d.worker = .addressing item ∧ Begins d' item.envelope (d.recipients item) := by
  cases Step.of_step hs with
  | drop => cases hw
  | fanOut item haddressing hne =>
    exact ⟨item, haddressing, rfl, nodup_recipients (run_iff.1 h).recorded.keyed item⟩
  | deliver index move x y he => cases move <;> cases he

/-- The fan-out of an envelope under way. -/
structure FanOut where
  /-- The time at which the deliveries began. -/
  start : Nat
  /-- The dispatcher. -/
  dispatcher : Dispatcher
  /-- What has happened since the deliveries began. -/
  events : List Occurrence

namespace FanOut

variable {f g : FanOut} {servers : Servers} {sender : Sender} {envelope : Envelope}
  {endpoints : List Endpoint} {e : Endpoint} {x y : Delivery} {index : Nat} {m : Delivery.Move}

/-- The fan-out that begins now. -/
def of (d : Dispatcher) : FanOut := ⟨d.now, d, []⟩

/-- The deliveries whose reports are not sent yet. -/
def deliveries (f : FanOut) : List Delivery := f.dispatcher.worker.deliveries

/-- The requests to an endpoint, oldest first, with times from the start. -/
def sent (f : FanOut) (id : EndpointId) : List (Nat × Http.Request) := sentTo id f.start f.events

/-- The reports, oldest first. -/
def reports (f : FanOut) : List Report := reportsIn f.events

/-- The reports on an endpoint, oldest first. -/
def reportsOn (f : FanOut) (id : EndpointId) : List Report :=
  f.reports.filter fun r => r.endpointId = id

/-- All reports are sent. -/
def IsOver (f : FanOut) : Prop := f.dispatcher.worker = .delivering []

/-- A delivery with times from the start, and its requests. -/
def stage (f : FanOut) (x : Delivery) : Stage := ⟨x.since f.start, f.sent x.endpoint.id⟩

/-- What comes next in a delivery, and when. -/
def next? (f : FanOut) (servers : Servers) (x : Delivery) : Option (Nat × Delivery.Move) :=
  (f.stage x).next? (servers x.endpoint.id)

/-- Whether a move comes next in the delivery at a place, and now. -/
def isDue (f : FanOut) (servers : Servers) (index : Nat) (m : Delivery.Move) : Bool :=
  f.deliveries[index]?.any fun x => f.next? servers x = some (f.dispatcher.now - f.start, m)

/-- Whether an action is in keeping with the servers and before the end: a delivery moves when and
as it is due, and time does not go past that. -/
def allows (f : FanOut) (servers : Servers) : Action → Bool
  | .send index => f.isDue servers index .send
  | .reply index reply => f.isDue servers index (.reply reply)
  | .expire index => f.isDue servers index .expire
  | .advance ms => f.deliveries.all fun x =>
    (f.next? servers x).all fun next => f.dispatcher.now + ms ≤ f.start + next.1
  | .finish => false
  | _ => true

/-- The fan-out when more has happened. -/
def extend (f : FanOut) (d : Dispatcher) (more : List Occurrence) : FanOut :=
  ⟨f.start, d, f.events ++ more⟩

/-- The fan-out after an action of the dispatcher, where the servers allow it. -/
def step? (f : FanOut) (servers : Servers) (action : Action) : Option FanOut :=
  if f.allows servers action then
    (f.dispatcher.step action).map fun result => f.extend result.1 result.2
  else none

/-- The fan-out after a sequence of actions. -/
def run? (f : FanOut) (servers : Servers) : List Action → Option FanOut
  | [] => some f
  | action :: rest => do (← f.step? servers action).run? servers rest

/-- A fan-out takes an action that its servers allow and that is a step of its dispatcher. -/
theorem step?_eq_some : f.step? servers action = some g ↔ f.allows servers action ∧
    ∃ d more, Step f.dispatcher action d more ∧ g = f.extend d more := by
  unfold step?
  constructor
  · intro h
    split at h
    next ha =>
      obtain ⟨⟨d, more⟩, hs, he⟩ := Option.map_eq_some_iff.1 h
      exact ⟨ha, d, more, Step.of_step hs, he.symm⟩
    · cases h
  · rintro ⟨ha, d, more, hs, rfl⟩
    rw [if_pos ha, hs.step_eq, Option.map_some]

/-- A run is its first step and the rest. -/
theorem run?_cons : f.run? servers (action :: actions) = some g ↔
    ∃ f₁, f.step? servers action = some f₁ ∧ f₁.run? servers actions = some g := by
  simp only [run?, Option.bind_eq_bind, Option.bind_eq_some_iff]

/-- A run can be continued by another. -/
theorem run?_append {g' : FanOut} (h : f.run? servers actions = some g)
    (h' : g.run? servers later = some g') : f.run? servers (actions ++ later) = some g' := by
  induction actions generalizing f with
  | nil =>
    cases h
    exact h'
  | cons action actions ih =>
    obtain ⟨f₁, hs, hr⟩ := run?_cons.1 h
    exact run?_cons.2 ⟨f₁, hs, ih hr⟩

/-- A fan-out is a run of its dispatcher. -/
theorem run_of_run? (h : f.run? servers actions = some g) :
    ∃ more, f.dispatcher.run actions = some (g.dispatcher, more) ∧
      g = f.extend g.dispatcher more := by
  -- along the actions, the events of the rest coming after those of the first
  induction actions generalizing f with
  | nil =>
    cases h
    exact ⟨[], rfl, by rw [extend, List.append_nil]⟩
  | cons action actions ih =>
    obtain ⟨f₁, hs, hr⟩ := run?_cons.1 h
    obtain ⟨-, d, first, hstep, rfl⟩ := step?_eq_some.1 hs
    obtain ⟨more, hrun, hg⟩ := ih hr
    refine ⟨first ++ more, run_cons_eq_some.2 ⟨d, first, more, hstep.step_eq, hrun, rfl⟩, ?_⟩
    rw [hg, extend, extend, extend, List.append_assoc]

/-- An extension keeps the start. -/
@[simp]
theorem extend_start : (f.extend d more).start = f.start := rfl

/-- An extension has the given dispatcher. -/
@[simp]
theorem extend_dispatcher : (f.extend d more).dispatcher = d := rfl

/-- What an extension has sent is what was sent and what the new events send. -/
@[simp]
theorem sent_extend : (f.extend d more).sent id = f.sent id ++ sentTo id f.start more :=
  sentTo_append

/-- What an extension has reported is what was reported and what the new events report. -/
@[simp]
theorem reports_extend : (f.extend d more).reports = f.reports ++ reportsIn more :=
  reportsIn_append

/-- The servers allow a move when it is due. -/
theorem allows_action : f.allows servers (m.action index) = f.isDue servers index m := by
  cases m <;> rfl

/-- A move is due when it is what the delivery does next, and does at this time. -/
theorem isDue_iff : f.isDue servers index m = true ↔ ∃ x, f.deliveries[index]? = some x ∧
    f.next? servers x = some (f.dispatcher.now - f.start, m) := by
  simp only [isDue, Option.any_eq_true, decide_eq_true_eq]

/-- The clock can go on up to the first time at which some delivery does something. -/
theorem allows_advance {ms : Nat} : f.allows servers (.advance ms) = true ↔
    ∀ x ∈ f.deliveries, ∀ time m, f.next? servers x = some (time, m) →
      f.dispatcher.now + ms ≤ f.start + time := by
  simp only [allows, List.all_eq_true, Option.all_eq_true, decide_eq_true_eq, Prod.forall]

/-! ## Each delivery by itself -/

/-- An open delivery stands where it would stand alone, and nothing in it is overdue. -/
structure OnCourse (f : FanOut) (servers : Servers) (sender : Sender) (envelope : Envelope)
    (x : Delivery) : Prop where
  since : ∀ time ∈ x.nextTime?, f.start ≤ time
  clock : ∀ time m, f.next? servers x = some (time, m) → f.dispatcher.now ≤ f.start + time
  stage : ∃ n, f.stage x =
    Stage.after sender (servers x.endpoint.id) envelope x.endpoint n

/-- A delivery stays on its course as long as it gets no request and the time stays. -/
theorem OnCourse.extend (hc : f.OnCourse servers sender envelope x)
    (hnow : d.now = f.dispatcher.now) (hsent : sentTo x.endpoint.id f.start more = []) :
    (f.extend d more).OnCourse servers sender envelope x := by
  have hstage : (f.extend d more).stage x = f.stage x := by
    simp only [FanOut.stage, extend_start, sent_extend, hsent, List.append_nil]
  refine ⟨hc.since, ?_, by rw [hstage]; exact hc.stage⟩
  intro time m hn
  rw [next?, hstage] at hn
  rw [extend_dispatcher, hnow]
  exact hc.clock time m hn

/-- A delivery that makes the move that is due stays on its course. -/
theorem OnCourse.move (hc : f.OnCourse servers sender envelope x)
    (hs : f.start ≤ f.dispatcher.now) (hnow : d.now = f.dispatcher.now)
    (hn : f.next? servers x = some (f.dispatcher.now - f.start, m))
    (hm : x.move? sender f.dispatcher.now m = some y) :
    (f.extend d (requestOf y f.dispatcher.now)).OnCourse servers sender envelope y := by
  have hendpoint := (Delivery.move?_frame hm).1
  have hmove : (x.since f.start).move? sender (f.dispatcher.now - f.start) m =
      some (y.since f.start) := by
    rw [Delivery.move?_since hs hc.since, hm, Option.map_some]
  -- the stage after the move is the one that comes next
  have hstage : (f.extend d (requestOf y f.dispatcher.now)).stage y =
      (f.stage x).moved (y.since f.start) (f.dispatcher.now - f.start) := by
    simp only [FanOut.stage, Stage.moved, extend_start, sent_extend, sentTo_requestOf, hendpoint,
      ↓reduceIte]
  refine ⟨?_, ?_, ?_⟩
  · intro time ht
    rcases Delivery.nextTime?_of_move? hm ht with hle | hx
    · exact Nat.le_trans hs hle
    · exact hc.since time hx
  · intro time m' hn'
    rw [next?, hstage, hendpoint] at hn'
    have hle := Stage.le_of_next?_moved hn hmove hn'
    rw [extend_dispatcher, extend_start, hnow]
    omega
  · obtain ⟨n, hafter⟩ := hc.stage
    refine ⟨n + 1, ?_⟩
    rw [hstage, hendpoint, Stage.after, ← hafter]
    exact (Stage.next_eq_moved hn hmove).symm

/-- The fan-out of an envelope to these endpoints: each delivery that is open stands where it would
stand alone, and each report is the one that its delivery would come to alone. -/
structure Keeps (f : FanOut) (servers : Servers) (sender : Sender) (envelope : Envelope)
    (endpoints : List Endpoint) : Prop where
  delivering : f.dispatcher.worker.fanOuts = 1
  sending : f.dispatcher.sender = sender
  started : f.start ≤ f.dispatcher.now
  distinct : (endpoints.map Endpoint.id).Nodup
  awaits : (⟨⟨envelope, none⟩, endpoints, f.reports⟩ : Round).Awaits f.deliveries
  onCourse : ∀ x ∈ f.deliveries, f.OnCourse servers sender envelope x
  reported : ∀ r ∈ f.reports, ∀ e ∈ endpoints, r.endpointId = e.id → ∃ n,
    (Stage.after sender (servers e.id) envelope e n).delivery.phase = .settled r ∧
      f.sent e.id = (Stage.after sender (servers e.id) envelope e n).sent

namespace Keeps

/-- There is one endpoint with each identifier. -/
theorem endpoint_eq (hk : f.Keeps servers sender envelope endpoints) {e' : Endpoint}
    (he : e ∈ endpoints) (he' : e' ∈ endpoints) (hid : e.id = e'.id) : e = e' :=
  List.inj_on_of_nodup_map hk.distinct he he' hid

/-- A fan-out begins so. -/
theorem of_begins (hb : Begins d envelope endpoints) (servers : Servers) :
    (FanOut.of d).Keeps servers d.sender envelope endpoints where
  delivering := by
    simp only [FanOut.of, hb.worker]
    rfl
  sending := rfl
  started := Nat.le_refl _
  distinct := hb.distinct
  awaits := by
    simp only [FanOut.deliveries, FanOut.of, hb.worker]
    exact Round.awaits_start ⟨envelope, none⟩ endpoints d.now
  onCourse := by
    -- every delivery starts at its stage zero
    intro x hx
    simp only [FanOut.deliveries, FanOut.of, hb.worker] at hx
    obtain ⟨e, he, rfl⟩ := List.mem_map.1 hx
    refine ⟨?_, ?_, 0, ?_⟩
    · intro time ht
      cases ht
      exact Nat.le_refl _
    · intro time m hn
      exact Nat.le_add_right ..
    · simp only [FanOut.stage, FanOut.of, FanOut.sent, Stage.after, Delivery.start, Delivery.since,
        Delivery.Phase.since, Nat.sub_self]
      rfl
  reported := by
    intro r hr
    cases hr

/-- What happens elsewhere leaves a fan-out as it is. -/
theorem of_other (hk : f.Keeps servers sender envelope endpoints)
    (ha : Alike d f.dispatcher)
    (hn : ∀ o ∈ more, o.isOfDelivery = false ∧ o.isAddressed = false) :
    (f.extend d more).Keeps servers sender envelope endpoints := by
  -- neither the deliveries nor the reports change
  have hdeliveries : (f.extend d more).deliveries = f.deliveries := by
    rw [FanOut.deliveries, extend_dispatcher, ← ha.worker, FanOut.deliveries]
  have hreports : (f.extend d more).reports = f.reports := by
    rw [reports_extend, reportsIn_of_other hn, List.append_nil]
  refine ⟨?_, ?_, ?_, hk.distinct, ?_, ?_, ?_⟩
  · rw [extend_dispatcher, ← ha.worker]
    exact hk.delivering
  · rw [extend_dispatcher, ← ha.sender]
    exact hk.sending
  · rw [extend_dispatcher, ← ha.now]
    exact hk.started
  · rw [hreports, hdeliveries]
    exact hk.awaits
  · rw [hdeliveries]
    exact fun x hx => (hk.onCourse x hx).extend ha.now.symm (sentTo_of_other hn)
  · rw [hreports]
    simp only [sent_extend, sentTo_of_other hn, List.append_nil]
    exact hk.reported

/-- When a delivery moves, it stays on its course, and so do the others. -/
theorem move (hk : f.Keeps servers sender envelope endpoints)
    (hx : f.deliveries[index]? = some x)
    (hn : f.next? servers x = some (f.dispatcher.now - f.start, m))
    (hm : x.move? sender f.dispatcher.now m = some y) :
    (f.extend { f.dispatcher with worker := .delivering (f.deliveries.set index y) }
      (requestOf y f.dispatcher.now)).Keeps servers sender envelope endpoints := by
  have hreports : (f.extend { f.dispatcher with worker := .delivering (f.deliveries.set index y) }
      (requestOf y f.dispatcher.now)).reports = f.reports := by
    rw [reports_extend, reportsIn_requestOf, List.append_nil]
  have hawaits := hk.awaits.move hx hm
  have hy : y ∈ f.deliveries.set index y := List.mem_set (List.getElem?_eq_some_iff.1 hx).1 y
  -- the request goes to no other endpoint
  have hother : ∀ id, y.endpoint.id ≠ id →
      sentTo id f.start (requestOf y f.dispatcher.now) = [] := by
    intro id hne
    rw [sentTo_requestOf, if_neg hne]
  refine ⟨rfl, hk.sending, hk.started, hk.distinct, ?_, ?_, ?_⟩
  · rw [hreports]
    exact hawaits
  · intro z hz
    by_cases hid : y.endpoint.id = z.endpoint.id
    · rw [← hawaits.eq_of_id hk.distinct hy hz hid]
      exact (hk.onCourse x (List.mem_of_getElem? hx)).move hk.started rfl hn hm
    · rcases List.mem_or_eq_of_mem_set hz with hz | rfl
      · exact (hk.onCourse z hz).extend rfl (hother _ hid)
      · exact absurd rfl hid
  · rw [hreports]
    intro r hr e he hid
    -- a report was sent on another endpoint
    have hne : y.endpoint.id ≠ e.id := by
      rw [← hid]
      exact (hawaits.id_ne hk.distinct hr hy).symm
    rw [sent_extend, hother _ hne, List.append_nil]
    exact hk.reported r hr e he hid

/-- The report of a delivery is the one that it would come to alone. -/
theorem record (hk : f.Keeps servers sender envelope endpoints) {report : Report}
    (hx : f.deliveries[index]? = some x) (hp : x.phase = .settled report)
    (hd : d.worker = .delivering (f.deliveries.eraseIdx index))
    (hsender : d.sender = f.dispatcher.sender) (hnow : d.now = f.dispatcher.now) :
    (f.extend d [.reported report]).Keeps servers sender envelope endpoints := by
  have hmem := List.mem_of_getElem? hx
  have hdeliveries : (f.extend d [.reported report]).deliveries = f.deliveries.eraseIdx index := by
    rw [FanOut.deliveries, extend_dispatcher, hd]
    rfl
  have hreports : (f.extend d [.reported report]).reports = f.reports ++ [report] :=
    reports_extend
  -- a report sends nothing
  have hsent : ∀ id, (f.extend d [.reported report]).sent id = f.sent id := by
    intro id
    rw [sent_extend]
    exact List.append_nil _
  refine ⟨?_, hsender.trans hk.sending, ?_, hk.distinct, ?_, ?_, ?_⟩
  · rw [extend_dispatcher, hd]
    rfl
  · rw [extend_dispatcher, hnow]
    exact hk.started
  · rw [hdeliveries, hreports]
    exact hk.awaits.record hx hp
  · rw [hdeliveries]
    exact fun z hz => (hk.onCourse z (List.mem_of_mem_eraseIdx hz)).extend hnow rfl
  · rw [hreports]
    intro r hr e he hid
    rw [hsent]
    -- an earlier report keeps its stage, and the new one is that of the delivery recorded
    rcases List.mem_append.1 hr with hr | hr
    · exact hk.reported r hr e he hid
    · rw [List.mem_singleton.1 hr] at hid ⊢
      have hsubject := hk.awaits.report x hmem report hp
      have hendpoint : x.endpoint = e :=
        hk.endpoint_eq (hk.awaits.endpoint x hmem) he
          ((congrArg (fun s => s.2.2) hsubject).symm.trans hid)
      obtain ⟨n, hafter⟩ := (hk.onCourse x hmem).stage
      rw [hendpoint] at hafter
      refine ⟨n, ?_, ?_⟩
      · rw [← hafter]
        simp only [FanOut.stage, Delivery.since, hp, Delivery.Phase.since]
      · rw [← hafter, ← hendpoint]
        rfl

/-- Time goes by up to what is due. -/
theorem advance (hk : f.Keeps servers sender envelope endpoints) {ms : Nat}
    (ha : f.allows servers (.advance ms)) :
    (f.extend { f.dispatcher with now := f.dispatcher.now + ms } []).Keeps servers sender envelope
      endpoints := by
  have hsame : f.extend { f.dispatcher with now := f.dispatcher.now + ms } [] =
      ⟨f.start, { f.dispatcher with now := f.dispatcher.now + ms }, f.events⟩ := by
    rw [FanOut.extend, List.append_nil]
  -- time passes up to what a delivery does next, so that each stays on its course
  rw [hsame]
  refine ⟨hk.delivering, hk.sending, Nat.le_trans hk.started (Nat.le_add_right ..), hk.distinct,
    hk.awaits,
    ?_, hk.reported⟩
  intro x hx
  have hc := hk.onCourse x hx
  exact ⟨hc.since, allows_advance.1 ha x hx, hc.stage⟩

/-- Each step that the servers allow keeps all deliveries on their course. -/
theorem step (hk : f.Keeps servers sender envelope endpoints)
    (h : f.step? servers action = some g) : g.Keeps servers sender envelope endpoints := by
  obtain ⟨ha, d, more, hs, rfl⟩ := step?_eq_some.1 h
  -- an action of other parts changes nothing here; of the rest, each has its lemma
  cases ho : action.isOfDelivery with
  | false =>
    obtain ⟨halike, hn⟩ := hs.alike_of_other ho hk.delivering
    exact hk.of_other halike hn
  | true =>
    have hworker := Worker.eq_delivering hk.delivering
    cases hs with
    | deliver index m x y he hw hx hm =>
      rw [hworker] at hw
      cases hw
      rw [he, allows_action] at ha
      obtain ⟨x', hx', hn⟩ := isDue_iff.1 ha
      cases hx.symm.trans hx'
      rw [hk.sending] at hm
      exact hk.move hx hn hm
    | record index x report hw hx hp =>
      rw [hworker] at hw
      cases hw
      exact hk.record hx hp rfl rfl rfl
    | advance ms ht => exact hk.advance ha
    | finish => cases ha
    | _ => cases ho

/-- A run keeps what a fan-out keeps. -/
theorem run (hk : f.Keeps servers sender envelope endpoints)
    (h : f.run? servers actions = some g) : g.Keeps servers sender envelope endpoints := by
  induction actions generalizing f with
  | nil =>
    cases h
    exact hk
  | cons action actions ih =>
    obtain ⟨f₁, hs, hr⟩ := run?_cons.1 h
    exact ih (hk.step hs) hr

/-- The requests to a recipient are those of a delivery by itself, and so is a report on it. -/
theorem exists_stage (hk : f.Keeps servers sender envelope endpoints) (he : e ∈ endpoints) :
    ∃ n, f.sent e.id = (Stage.after sender (servers e.id) envelope e n).sent ∧
      ∀ r ∈ f.reports, r.endpointId = e.id →
        (Stage.after sender (servers e.id) envelope e n).delivery.phase = .settled r := by
  have hmem := hk.awaits.ids.mem_iff.2 (List.mem_map_of_mem he)
  rcases List.mem_append.1 hmem with hmem | hmem
  · obtain ⟨r, hr, hid⟩ := List.mem_map.1 hmem
    obtain ⟨n, hp, hsent⟩ := hk.reported r hr e he hid
    refine ⟨n, hsent, fun r' hr' hid' => ?_⟩
    -- there is one report only on the recipient
    rw [hk.awaits.report_eq_of_id hk.distinct hr' hr (hid'.trans hid.symm)]
    exact hp
  · obtain ⟨x, hx, hid⟩ := List.mem_map.1 hmem
    have hendpoint := hk.endpoint_eq (hk.awaits.endpoint x hx) he hid
    obtain ⟨n, hafter⟩ := (hk.onCourse x hx).stage
    rw [hendpoint] at hafter
    refine ⟨n, ?_, fun r hr hid' => ?_⟩
    · rw [← hafter, ← hendpoint]
      rfl
    · exact absurd (hid'.trans hid.symm) (hk.awaits.id_ne hk.distinct hr hx)

end Keeps

end FanOut

end Dispatcher

end Webhook
