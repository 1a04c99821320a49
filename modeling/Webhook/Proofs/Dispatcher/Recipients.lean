import Webhook.Proofs.Dispatcher.Accounting

/-!
# The recipients of an envelope

`recipients_fixed_at_lookup` says who receives an envelope and what can change it. The registry
selects the recipients at the moment at which the worker looks them up: what was registered before
counts, and nothing that comes later does. From then on, the requests to them and the reports on
them depend on the deliveries' own actions alone (`fanOutActions`): two runs that differ in anything
else from the lookup on, such as in operations on the registry, have the same requests at the same
times and the same reports.

The proof replays a run without all other actions. As long as an envelope is being delivered, none
of these touches what the deliveries depend on (`Alike`), which is the deliveries themselves, what
all deliveries have in common, and the time. So the deliveries' own actions, taken alone, bring
about the same (`run_fanOutActions`).
-/

namespace Webhook

/-- Those that a registry selects for an envelope: for an ordinary one, the endpoints that are
registered, enabled and subscribed to its event type; for a test event, its target, if that is
registered. -/
structure Registry.Selects (r : Registry) (item : QueuedEnvelope) (recipients : List Endpoint) :
    Prop where
  ordinary : item.target = none → ∀ e, e ∈ recipients ↔
    r.get? e.id = some e ∧ e.enabled = true ∧ e.events.contains item.envelope.eventType = true
  test : ∀ id, item.target = some id → recipients = (r.get? id).toList
  nodup : (recipients.map Endpoint.id).Nodup

/-- A worker delivers one envelope or none. -/
theorem Worker.fanOuts_cases (w : Worker) : w.fanOuts = 0 ∨ w.fanOuts = 1 := by
  cases w with
  | delivering deliveries => exact .inr rfl
  | _ => exact .inl rfl

/-- A worker with a fan-out under way delivers. -/
theorem Worker.eq_delivering {w : Worker} (h : w.fanOuts = 1) : w = .delivering w.deliveries := by
  cases w with
  | delivering deliveries => rfl
  | _ => cases h

namespace Dispatcher

variable {d d' c : Dispatcher} {action : Action} {actions : List Action}
  {events more : List Occurrence} {item : QueuedEnvelope} {recipients : List Endpoint}

/-- A keyed registry selects those whom the worker finds. -/
theorem selects_recipients (hk : d.registry.IsKeyed) (item : QueuedEnvelope) :
    d.registry.Selects item (d.recipients item) where
  ordinary := by
    intro ht e
    simp only [Dispatcher.recipients, ht]
    exact hk.mem_subscribers_iff
  test := by
    intro id ht
    simp only [Dispatcher.recipients, ht]
  nodup := nodup_recipients hk item

/-! ## The trace of a round -/

/-- Whether an occurrence is that the recipients of an envelope were looked up. -/
def Occurrence.isAddressed : Occurrence → Bool
  | .addressed _ _ => true
  | _ => false

/-- Whether an occurrence is a request or a report. -/
def Occurrence.isOfDelivery : Occurrence → Bool
  | .requested _ _ _ => true
  | .reported _ => true
  | _ => false

/-- The requests and the reports up to the next lookup. -/
def roundTrace (events : List Occurrence) : List Occurrence :=
  (events.takeWhile fun o => !o.isAddressed).filter Occurrence.isOfDelivery

/-- A request or a report is about an envelope and one of its recipients. -/
def Occurrence.Concerns (item : QueuedEnvelope) (recipients : List Endpoint) : Occurrence → Prop
  | .requested x _ _ => x.envelope = item.envelope ∧ x.endpoint ∈ recipients
  | .reported report => ∃ e ∈ recipients,
      report.subject = (item.envelope.id, item.envelope.eventType, e.id)
  | _ => False

/-- Events before the next lookup come before the rest of the round. -/
theorem roundTrace_append (hn : ∀ o ∈ events, o.isAddressed = false) :
    roundTrace (events ++ more) = events.filter Occurrence.isOfDelivery ++ roundTrace more := by
  unfold roundTrace
  rw [List.takeWhile_append_of_pos (by simpa using hn), List.filter_append]

/-- Of events about no delivery nothing remains. -/
theorem filter_of_other (hn : ∀ o ∈ events, o.isOfDelivery = false ∧ o.isAddressed = false) :
    events.filter Occurrence.isOfDelivery = [] := by
  rw [List.filter_eq_nil_iff]
  intro o ho
  rw [(hn o ho).1]
  exact Bool.false_ne_true

/-- Whether an action is one of the deliveries of an envelope: a move or the report of one of them,
their end, or the passing of time. -/
def Action.isOfDelivery : Action → Bool
  | .send _ | .reply _ _ | .expire _ | .record _ | .finish | .advance _ => true
  | _ => false

/-- Whether an action ends the deliveries of an envelope. -/
def Action.isFinish : Action → Bool
  | .finish => true
  | _ => false

/-- The deliveries' own actions up to their end. -/
def fanOutActions (actions : List Action) : List Action :=
  (actions.filter Action.isOfDelivery).takeWhile fun action => !action.isFinish

/-- A move is an action of a delivery. -/
theorem isOfDelivery_move (index : Nat) (move : Delivery.Move) :
    (move.action index).isOfDelivery = true := by
  cases move <;> rfl

/-- A move does not end a fan-out. -/
theorem isFinish_move (index : Nat) (move : Delivery.Move) :
    (move.action index).isFinish = false := by
  cases move <;> rfl

/-- A request that a delivery waits for the reply to is all that its move brings about. -/
theorem requestOf_isOfDelivery (x : Delivery) (now : Nat) :
    ∀ o ∈ requestOf x now, o.isOfDelivery = true ∧ o.isAddressed = false := by
  unfold requestOf
  split <;> simp [Occurrence.isOfDelivery, Occurrence.isAddressed]

/-! ## What deliveries depend on -/

/-- Two dispatchers do the same, have the same settings for deliveries, and the same time. -/
structure Alike (d c : Dispatcher) : Prop where
  worker : c.worker = d.worker
  sender : c.sender = d.sender
  now : c.now = d.now

/-- A dispatcher is like itself. -/
theorem Alike.refl (d : Dispatcher) : Alike d d := ⟨rfl, rfl, rfl⟩

/-- While an envelope is being delivered, its deliveries' own actions bring about requests and
reports alone, and do so wherever the deliveries are the same. They go on until the end. -/
theorem Step.alike (hs : Step d action d' events) (ha : action.isOfDelivery = true)
    (hc : Alike d c) : (∃ c', Step c action c' events ∧ Alike d' c') ∧
      (∀ o ∈ events, o.isOfDelivery = true ∧ o.isAddressed = false) ∧
      (d.worker.fanOuts = 1 → d'.worker.fanOuts = if action.isFinish then 0 else 1) := by
  -- a step of the fan-out reads worker, sender and clock only, and so can be taken in both
  cases hs with
  | deliver index move x y he hw hx hm =>
    subst he
    have hrequest : requestOf y d.now = requestOf y c.now := by rw [hc.now]
    rw [← hc.sender, ← hc.now] at hm
    rw [isFinish_move, hrequest]
    exact ⟨⟨_, .deliver index move x y rfl (hc.worker.trans hw) hx hm, rfl, hc.sender, hc.now⟩,
      requestOf_isOfDelivery y c.now, fun _ => rfl⟩
  | record index x report hw hx hs =>
    refine ⟨⟨_, .record index x report (hc.worker.trans hw) hx hs, rfl, hc.sender, hc.now⟩, ?_,
      fun _ => rfl⟩
    simp [Occurrence.isOfDelivery, Occurrence.isAddressed]
  | finish hw =>
    exact ⟨⟨_, .finish (hc.worker.trans hw), rfl, hc.sender, hc.now⟩, by simp, fun _ => rfl⟩
  | advance ms ht =>
    have ht' : c.allowsUntil (c.now + ms) := by
      unfold allowsUntil at ht ⊢
      rw [hc.worker, hc.now]
      exact ht
    refine ⟨⟨_, .advance ms ht', hc.worker, hc.sender, ?_⟩, by simp, fun hw => hw⟩
    simp only [hc.now]
  | _ => cases ha

/-- The end of the deliveries brings about nothing. -/
theorem Step.events_of_isFinish (hs : Step d action d' events) (hf : action.isFinish = true) :
    events = [] := by
  cases hs with
  | deliver index move x y he =>
    rw [he, isFinish_move] at hf
    cases hf
  | finish => rfl
  | _ => cases hf

/-- While an envelope is being delivered, all other actions leave alone what the deliveries depend
on, and bring about neither requests nor reports. -/
theorem Step.alike_of_other (hs : Step d action d' events) (ha : action.isOfDelivery = false)
    (hw : d.worker.fanOuts = 1) :
    Alike d' d ∧ ∀ o ∈ events, o.isOfDelivery = false ∧ o.isAddressed = false := by
  cases hs with
  | deliver index move x y he =>
    rw [he, isOfDelivery_move] at ha
    cases ha
  | record => cases ha
  | finish => cases ha
  | advance => cases ha
  | refuse =>
    exact ⟨.refl d, by simp [Occurrence.isOfDelivery, Occurrence.isAddressed]⟩
  | append =>
    exact ⟨⟨rfl, rfl, rfl⟩, by simp [Occurrence.isOfDelivery, Occurrence.isAddressed]⟩
  -- the other steps of the worker begin where it does not deliver
  | rest hr => simp [hr, Worker.fanOuts] at hw
  | take item later hr => simp [hr, Worker.fanOuts] at hw
  | drop item hr => simp [hr, Worker.fanOuts] at hw
  | fanOut item hr => simp [hr, Worker.fanOuts] at hw
  | park hr => simp [hr, Worker.fanOuts] at hw
  | stop hr => simp [hr, Worker.fanOuts] at hw
  | wake hr => simp [hr, Worker.fanOuts] at hw
  | _ => exact ⟨⟨rfl, rfl, rfl⟩, by simp⟩

/-- While no envelope is being delivered, there are neither requests nor reports until the next
lookup. -/
theorem Step.of_not_delivering (hs : Step d action d' events) (hw : d.worker.fanOuts = 0) :
    (∃ item recipients, events = [.addressed item recipients]) ∨
      d'.worker.fanOuts = 0 ∧ ∀ o ∈ events, o.isOfDelivery = false ∧ o.isAddressed = false := by
  cases hs with
  | drop item => exact .inl ⟨item, _, rfl⟩
  | fanOut item => exact .inl ⟨item, _, rfl⟩
  -- without a fan-out under way, nothing moves or is recorded
  | deliver index move x y he hd => simp [hd, Worker.fanOuts] at hw
  | record index x report hd => simp [hd, Worker.fanOuts] at hw
  | refuse => exact .inr ⟨hw, by simp [Occurrence.isOfDelivery, Occurrence.isAddressed]⟩
  | append => exact .inr ⟨hw, by simp [Occurrence.isOfDelivery, Occurrence.isAddressed]⟩
  | take => exact .inr ⟨rfl, by simp [Occurrence.isOfDelivery, Occurrence.isAddressed]⟩
  | rest => exact .inr ⟨rfl, by simp⟩
  | park => exact .inr ⟨rfl, by simp⟩
  | stop => exact .inr ⟨rfl, by simp⟩
  | wake => exact .inr ⟨rfl, by simp⟩
  | finish => exact .inr ⟨rfl, by simp⟩
  | _ => exact .inr ⟨hw, by simp⟩

/-- Without a fan-out under way the round has no events. -/
theorem roundTrace_of_not_delivering (h : d.run actions = some (d', events))
    (hw : d.worker.fanOuts = 0) : roundTrace events = [] := by
  induction actions generalizing d events with
  | nil =>
    cases h
    rfl
  | cons action actions ih =>
    obtain ⟨d₁, first, more, hs, hm, rfl⟩ := run_cons_eq_some.1 h
    rcases (Step.of_step hs).of_not_delivering hw with ⟨item, recipients, rfl⟩ | ⟨hw₁, hfirst⟩
    · rfl
    · rw [roundTrace_append fun o ho => (hfirst o ho).2, ih hm hw₁, filter_of_other hfirst]
      rfl

/-- The deliveries' own actions, taken alone, bring about the requests and the reports of a run. -/
theorem run_fanOutActions (h : d.run actions = some (d', events)) (hw : d.worker.fanOuts = 1)
    (hc : Alike d c) : ∃ c', c.run (fanOutActions actions) = some (c', roundTrace events) := by
  induction actions generalizing d c events with
  | nil =>
    cases h
    exact ⟨c, rfl⟩
  | cons action actions ih =>
    obtain ⟨d₁, first, more, hs, hm, rfl⟩ := run_cons_eq_some.1 h
    cases ha : action.isOfDelivery with
    | false =>
      obtain ⟨hback, hfirst⟩ := (Step.of_step hs).alike_of_other ha hw
      have hfan : fanOutActions (action :: actions) = fanOutActions actions := by
        simp [fanOutActions, ha]
      have htrace : roundTrace (first ++ more) = roundTrace more := by
        rw [roundTrace_append fun o ho => (hfirst o ho).2, filter_of_other hfirst, List.nil_append]
      rw [hfan, htrace]
      -- nothing has changed for the deliveries
      refine ih hm (by rw [← hback.worker]; exact hw) ⟨?_, ?_, ?_⟩
      · exact hc.worker.trans hback.worker
      · exact hc.sender.trans hback.sender
      · exact hc.now.trans hback.now
    | true =>
      obtain ⟨⟨c₁, hstep, hc₁⟩, hfirst, hnext⟩ := (Step.of_step hs).alike ha hc
      have htrace : roundTrace (first ++ more) = first ++ roundTrace more := by
        rw [roundTrace_append fun o ho => (hfirst o ho).2,
          List.filter_eq_self.2 fun o ho => (hfirst o ho).1]
      have hnext := hnext hw
      cases hf : action.isFinish with
      | true =>
        -- the end brings about nothing, and after it comes nothing of this round
        rw [hf, if_pos rfl] at hnext
        have hfan : fanOutActions (action :: actions) = [] := by simp [fanOutActions, ha, hf]
        rw [hfan, htrace, (Step.of_step hs).events_of_isFinish hf,
          roundTrace_of_not_delivering hm hnext]
        exact ⟨c, rfl⟩
      | false =>
        rw [hf] at hnext
        have hfan : fanOutActions (action :: actions) = action :: fanOutActions actions := by
          simp [fanOutActions, ha, hf]
        obtain ⟨c', hrun⟩ := ih hm hnext hc₁
        rw [hfan, htrace]
        exact ⟨c', run_cons_eq_some.2 ⟨c₁, first, _, hstep.step_eq, hrun, rfl⟩⟩

/-- Two runs whose deliveries' own actions are the same have the same requests and reports. -/
theorem roundTrace_congr {actions' : List Action} {d'' : Dispatcher}
    (h : d.run actions = some (d', events)) (h' : d.run actions' = some (d'', more))
    (hf : fanOutActions actions' = fanOutActions actions) :
    roundTrace more = roundTrace events := by
  rcases d.worker.fanOuts_cases with hw | hw
  · rw [roundTrace_of_not_delivering h hw, roundTrace_of_not_delivering h' hw]
  · obtain ⟨c, hrun⟩ := run_fanOutActions h hw (.refl d)
    obtain ⟨c', hrun'⟩ := run_fanOutActions h' hw (.refl d)
    rw [hf, hrun] at hrun'
    exact (Prod.mk.inj (Option.some.inj hrun')).2.symm

/-! ## What a round is about -/

/-- The requests and the reports of a round are about its envelope and its recipients. -/
theorem Step.concerns {r : Round} (hs : Step d action d' events)
    (ha : action.isOfDelivery = true) (hr : r.Awaits d.worker.deliveries) :
    (∃ r' : Round, r'.item = r.item ∧ r'.recipients = r.recipients ∧
      r'.Awaits d'.worker.deliveries) ∧ ∀ o ∈ events, o.Concerns r.item r.recipients := by
  cases hs with
  | deliver index move x y he hw hx hm =>
    rw [hw] at hr
    have hr' := hr.move hx hm
    -- the delivery as moved is the one the request is about
    have hy : y ∈ List.set _ index y :=
      List.mem_set (List.getElem?_eq_some_iff.1 hx).1 y
    refine ⟨⟨r, rfl, rfl, hr'⟩, ?_⟩
    unfold requestOf
    split
    · intro o ho
      rw [List.mem_singleton.1 ho]
      exact ⟨hr'.envelope y hy, hr'.endpoint y hy⟩
    · simp
  | record index x report hw hx hs =>
    rw [hw] at hr
    refine ⟨⟨r.addReport report, rfl, rfl, hr.record hx hs⟩, ?_⟩
    intro o ho
    rw [List.mem_singleton.1 ho]
    have hmem := List.mem_of_getElem? hx
    refine ⟨x.endpoint, hr.endpoint x hmem, ?_⟩
    rw [hr.report x hmem report hs, Delivery.subject, hr.envelope x hmem]
  | finish hw =>
    rw [hw] at hr
    exact ⟨⟨r, rfl, rfl, hr⟩, by simp⟩
  | advance ms ht => exact ⟨⟨r, rfl, rfl, hr⟩, by simp⟩
  | _ => cases ha

/-- What the actions of a fan-out bring about concerns its item and its recipients. -/
theorem concerns_of_run {r : Round} (h : d.run actions = some (d', events))
    (ha : ∀ action ∈ actions, action.isOfDelivery = true) (hr : r.Awaits d.worker.deliveries) :
    ∀ o ∈ events, o.Concerns r.item r.recipients := by
  induction actions generalizing d events r with
  | nil =>
    cases h
    simp
  | cons action actions ih =>
    obtain ⟨d₁, first, more, hs, hm, rfl⟩ := run_cons_eq_some.1 h
    -- the round may have gained a report, but item and recipients are the same
    obtain ⟨⟨r', hitem, hrecipients, hr'⟩, hfirst⟩ :=
      (Step.of_step hs).concerns (ha action (List.mem_cons_self ..)) hr
    have hmore := ih hm (fun a hmem => ha a (List.mem_cons_of_mem _ hmem)) hr'
    rw [hitem, hrecipients] at hmore
    intro o ho
    rcases List.mem_append.1 ho with ho | ho
    · exact hfirst o ho
    · exact hmore o ho

/-- The actions of a fan-out are those of its deliveries. -/
theorem isOfDelivery_of_mem (hmem : action ∈ fanOutActions actions) :
    action.isOfDelivery = true :=
  (List.mem_filter.1 ((List.takeWhile_sublist _).subset hmem)).2

/-- The requests and the reports of a run up to the next lookup are about the round that is open. -/
theorem roundTrace_concerns {r : Round} (h : d.run actions = some (d', events))
    (hw : d.worker.fanOuts = 1) (hr : r.Awaits d.worker.deliveries) :
    ∀ o ∈ roundTrace events, o.Concerns r.item r.recipients := by
  -- the deliveries' own actions bring about the trace and nothing else
  obtain ⟨c, hrun⟩ := run_fanOutActions h hw (.refl d)
  exact concerns_of_run hrun (fun _ => isOfDelivery_of_mem) hr

/-! ## The lookup -/

/-- The worker that looks up recipients finds those of its envelope, and begins to deliver it to
them. -/
theorem Step.of_address (hs : Step d .address d' events) :
    ∃ item, d.worker = .addressing item ∧ events = [.addressed item (d.recipients item)] ∧
      d'.worker.deliveries = (d.recipients item).map (Delivery.start d.now item.envelope) := by
  cases hs with
  | drop item hw hr => exact ⟨item, hw, by rw [hr], by rw [hr]; rfl⟩
  | fanOut item hw hr => exact ⟨item, hw, rfl, rfl⟩
  | deliver index move x y ha => cases move <;> cases ha

/-- Whenever in a run of a new dispatcher the worker looks up recipients, they are those that the
registry selects at this moment for the envelope taken last, and a delivery to each of them begins.
However the run goes on, its requests and reports up to the next lookup are about these. Two runs
that go on from there, in which the deliveries' own actions up to their end are the same, have the
same requests, at the same times, and the same reports, whatever is done to the registry. -/
theorem recipients_fixed_at_lookup (config : Config) (earlier : List Action)
    {d₁ d₂ : Dispatcher} {before now : List Occurrence}
    (h : (create config).run earlier = some (d₁, before))
    (hs : d₁.step .address = some (d₂, now)) :
    ∃ item recipients, d₁.worker = .addressing item ∧ now = [.addressed item recipients] ∧
      (History.of before).taken = (History.of before).rounds.map Round.item ++ [item] ∧
      d₁.registry.Selects item recipients ∧
      d₂.worker.deliveries = recipients.map (Delivery.start d₁.now item.envelope) ∧
      ∀ later d after, d₂.run later = some (d, after) →
        (∀ o ∈ roundTrace after, o.Concerns item recipients) ∧
          ∀ later' d' after', d₂.run later' = some (d', after') →
            fanOutActions later' = fanOutActions later →
              roundTrace after' = roundTrace after := by
  have hr := run_iff.1 h
  obtain ⟨item, hw, rfl, hdeliveries⟩ := (Step.of_step hs).of_address
  have htaken := hr.follows.taken
  rw [hw] at htaken
  refine ⟨item, d₁.recipients item, hw, rfl, htaken,
    selects_recipients hr.recorded.keyed item, hdeliveries, fun later d after hl => ⟨?_, ?_⟩⟩
  · -- a lookup that finds nobody begins no fan-out
    rcases d₂.worker.fanOuts_cases with hw₂ | hw₂
    · rw [roundTrace_of_not_delivering hl hw₂]
      simp
    · have haw := Round.awaits_start item (d₁.recipients item) d₁.now
      rw [← hdeliveries] at haw
      exact roundTrace_concerns hl hw₂ haw
  · exact fun later' d' after' hl' hf => roundTrace_congr hl hl' hf

/-- In the session, the first envelope goes to two endpoints, one of which is asked twice. All
requests and reports are the same when this one is removed as soon as its delivery has begun. -/
theorem removed_still_served : ∃ d₁ d₂ d d' before now after after',
    (create Config.default).run (Session.script.take 6) = some (d₁, before) ∧
      d₁.step .address = some (d₂, now) ∧
      d₂.run (Session.script.drop 7) = some (d, after) ∧
      d₂.run (.configure (.unregister ⟨"one"⟩) :: Session.script.drop 7) = some (d', after') ∧
      d.registry.contains ⟨"one"⟩ = true ∧ d'.registry.contains ⟨"one"⟩ = false ∧
      (roundTrace after).length = 5 ∧ roundTrace after' = roundTrace after := by
  -- the same continuation with the endpoint kept and with it removed
  have hruns : ((create Config.default).run (Session.script.take 6)).any (fun first =>
      (first.1.step .address).any fun second =>
        ((second.1.run (Session.script.drop 7)).any fun result =>
          result.1.registry.contains ⟨"one"⟩ ∧ (roundTrace result.2).length = 5) ∧
        ((second.1.run (.configure (.unregister ⟨"one"⟩) :: Session.script.drop 7)).any
          fun result => result.1.registry.contains ⟨"one"⟩ = false)) := by
    decide
  obtain ⟨⟨d₁, before⟩, h, hruns⟩ := (Option.any_eq_true _ _).1 hruns
  obtain ⟨⟨d₂, now⟩, hs, hruns⟩ := (Option.any_eq_true _ _).1 hruns
  obtain ⟨hkept, hremoved⟩ := of_decide_eq_true hruns
  obtain ⟨⟨d, after⟩, hrun, hkept⟩ := (Option.any_eq_true _ _).1 hkept
  obtain ⟨⟨d', after'⟩, hrun', hremoved⟩ := (Option.any_eq_true _ _).1 hremoved
  obtain ⟨hcontains, hlength⟩ := of_decide_eq_true hkept
  obtain ⟨item, recipients, -, -, -, -, -, hlater⟩ :=
    recipients_fixed_at_lookup Config.default (Session.script.take 6) h hs
  exact ⟨d₁, d₂, d, d', before, now, after, after', h, hs, hrun, hrun', hcontains,
    of_decide_eq_true hremoved, hlength, (hlater _ _ _ hrun).2 _ _ _ hrun' rfl⟩

end Dispatcher

end Webhook
