import Mathlib.Algebra.Ring.Nat
import Webhook.Proofs.Delivery.Reader
import Webhook.Proofs.Dispatcher.History
import Webhook.Proofs.Dispatcher.Schedule

/-!
# Every event is accounted for

`every_event_accounted_for` holds of every run of a new dispatcher. An accepted envelope is in the
queue or was taken; one that was taken was dropped, or has recipients, or is about to have them
looked up; and for each recipient there is one report or one open delivery, so that the counters,
the reports and the open deliveries add up. A reader of the reports gets the growth of the counters,
up to what it is told to have lost.

Two invariants go beside the history. `Tallies` is about the reports: the counters count them, and
the channel keeps them. `Recorded` is about the rounds: those without recipients are counted as
dropped, their reports are all reports, and no endpoint comes twice among the recipients of one.
-/

namespace Webhook

namespace History

variable {h : History}

/-- An envelope that is addressed begins a round. -/
@[simp]
theorem rounds_add_addressed (item : QueuedEnvelope) (recipients : List Endpoint) :
    (h.add (.addressed item recipients)).rounds = h.rounds ++ [⟨item, recipients, []⟩] := rfl

/-- A round that begins has no reports. -/
theorem reports_add_addressed (item : QueuedEnvelope) (recipients : List Endpoint) :
    (h.add (.addressed item recipients)).reports = h.reports := by
  simp [reports]

/-- The reports are those of all rounds. -/
theorem length_reports : h.reports.length = (h.rounds.map fun r => r.reports.length).sum :=
  List.length_flatMap

/-- A report changes the recipients of no round. -/
theorem recipients_add_reported (report : Report) :
    (h.add (.reported report)).rounds.map Round.recipients = h.rounds.map Round.recipients := by
  cases hl : h.latest <;> simp [add, rounds, hl]

/-- A report is that of the latest round. -/
theorem reports_add_reported (ho : h.latest.isSome) (report : Report) :
    (h.add (.reported report)).reports = h.reports ++ [report] := by
  obtain ⟨r, hr⟩ := Option.isSome_iff_exists.1 ho
  simp [add, reports, rounds, hr]

/-- When there is no round yet, no delivery is open. -/
theorem Follows.deliveries_eq_nil {d : Dispatcher} (hf : h.Follows d) (hl : h.latest = none) :
    d.worker.deliveries = [] := by
  cases hw : d.worker with
  | delivering deliveries =>
    have := hf.opened deliveries hw
    rw [hl] at this
    cases this
  | _ => rfl

/-- The latest round has the open deliveries, and those before it have none. -/
theorem Follows.awaits {d : Dispatcher} (hf : h.Follows d) {earlier later : List Round}
    {round : Round} (he : h.rounds = earlier ++ round :: later) :
    round.Awaits (if later = [] then d.worker.deliveries else []) := by
  have hround : round ∈ h.rounds := by simp [he]
  -- without a latest round every round is settled; with one, only it can wait
  cases hl : h.latest with
  | none =>
    rw [hf.deliveries_eq_nil hl, ite_self]
    exact Round.awaits_nil_iff.2 (hf.settled (hf.deliveries_eq_nil hl) round hround)
  | some r =>
    rw [rounds, hl, Option.toList_some] at he
    rcases List.eq_nil_or_concat later with rfl | ⟨front, last, rfl⟩
    · cases (List.append_inj' he rfl).2
      rw [if_pos rfl]
      exact hf.latest round hl
    · -- the latest round is the last of those that come later
      rw [List.concat_eq_append, ← List.cons_append, ← List.append_assoc] at he
      have hearlier : round ∈ h.earlier := by
        rw [(List.append_inj' he rfl).1]
        simp
      rw [if_neg (by simp)]
      exact Round.awaits_nil_iff.2 (hf.earlier round hearlier)

end History

namespace Round

variable {r : Round} {deliveries : List Delivery}

/-- The reports and the open deliveries of a round are as many as its recipients. -/
theorem Awaits.length (h : r.Awaits deliveries) :
    r.reports.length + deliveries.length = r.recipients.length := by
  simpa using h.perm.length_eq

/-- Among different recipients, each has one report or one open delivery. -/
theorem Awaits.count (h : r.Awaits deliveries) (hd : (r.recipients.map Endpoint.id).Nodup)
    {e : Endpoint} (he : e ∈ r.recipients) :
    (r.reports.map Report.subject).count (r.subject e) +
      (deliveries.map Delivery.subject).count (r.subject e) = 1 := by
  have hsubjects : (r.recipients.map r.subject).Nodup := by
    -- what two deliveries of one envelope are about differs in the endpoint
    refine List.Nodup.of_map (fun s => s.2.2) ?_
    rw [List.map_map]
    exact hd
  rw [← List.count_append, h.perm.count_eq]
  exact List.count_eq_one_of_mem hsubjects (List.mem_map_of_mem he)

/-- A report of a round is about one of its recipients. -/
theorem Awaits.about (h : r.Awaits deliveries) {report : Report} (hr : report ∈ r.reports) :
    ∃ e ∈ r.recipients, report.subject = r.subject e := by
  have hmem := h.perm.subset (List.mem_append_left _ (List.mem_map_of_mem hr))
  obtain ⟨e, he, hs⟩ := List.mem_map.1 hmem
  exact ⟨e, he, hs.symm⟩

/-- The reports and the open deliveries of a round are on its recipients. -/
theorem Awaits.ids (h : r.Awaits deliveries) :
    (r.reports.map Report.endpointId ++ deliveries.map fun x => x.endpoint.id).Perm
      (r.recipients.map Endpoint.id) := by
  have hperm := h.perm.map fun s => s.2.2
  rw [List.map_append, List.map_map, List.map_map, List.map_map] at hperm
  exact hperm

/-- One delivery at most is open to an endpoint. -/
theorem Awaits.eq_of_id (h : r.Awaits deliveries) (hd : (r.recipients.map Endpoint.id).Nodup)
    {x y : Delivery} (hx : x ∈ deliveries) (hy : y ∈ deliveries)
    (hid : x.endpoint.id = y.endpoint.id) : x = y := by
  have hnodup := (List.nodup_append.1 (h.ids.nodup_iff.2 hd)).2.1
  exact List.inj_on_of_nodup_map hnodup hx hy hid

/-- One report at most is on an endpoint. -/
theorem Awaits.report_eq_of_id (h : r.Awaits deliveries)
    (hd : (r.recipients.map Endpoint.id).Nodup) {report report' : Report}
    (hr : report ∈ r.reports) (hr' : report' ∈ r.reports)
    (hid : report.endpointId = report'.endpointId) : report = report' := by
  have hnodup := (List.nodup_append.1 (h.ids.nodup_iff.2 hd)).1
  exact List.inj_on_of_nodup_map hnodup hr hr' hid

/-- As long as a delivery is open, there is no report on its endpoint. -/
theorem Awaits.id_ne (h : r.Awaits deliveries) (hd : (r.recipients.map Endpoint.id).Nodup)
    {report : Report} (hr : report ∈ r.reports) {x : Delivery} (hx : x ∈ deliveries) :
    report.endpointId ≠ x.endpoint.id := by
  have hdisjoint := (List.nodup_append.1 (h.ids.nodup_iff.2 hd)).2.2
  exact hdisjoint _ (List.mem_map.2 ⟨report, hr, rfl⟩) _ (List.mem_map.2 ⟨x, hx, rfl⟩)

end Round

namespace Dispatcher

open History

variable {d d₀ d' : Dispatcher} {action : Action} {actions : List Action}
  {events more : List Occurrence} {h : History} {sent : List Report}

/-- The reports that were sent, oldest first. -/
def reportsIn (events : List Occurrence) : List Report :=
  events.filterMap fun
    | .reported report => some report
    | _ => none

/-- The reports of events one after the other are so too. -/
theorem reportsIn_append : reportsIn (events ++ more) = reportsIn events ++ reportsIn more :=
  List.filterMap_append

/-- A request is no report. -/
theorem reportsIn_requestOf (x : Delivery) (now : Nat) : reportsIn (requestOf x now) = [] := by
  unfold requestOf
  split <;> rfl

/-! ## Reports and counters -/

/-- The counters count these reports, and the channel keeps them. -/
structure Tallies (d : Dispatcher) (sent : List Report) : Prop where
  delivered : d.counters.delivered = sent.countP Report.isSuccess
  failed : d.counters.failed = sent.countP fun r => !r.isSuccess
  channel : d.reports.Keeps sent

/-- The two counters count all reports. -/
theorem Tallies.total (ht : Tallies d sent) :
    d.counters.delivered + d.counters.failed = sent.length := by
  rw [ht.delivered, ht.failed, List.length_eq_countP_add_countP Report.isSuccess]
  simp

/-- A step counts the reports that it sends. -/
theorem Step.counted (hs : Step d action d' events) :
    d'.counters.delivered = d.counters.delivered + (reportsIn events).countP Report.isSuccess ∧
      d'.counters.failed =
        d.counters.failed + (reportsIn events).countP fun r => !r.isSuccess := by
  cases hs with
  | deliver index move x y he hw hx hm =>
    rw [reportsIn_requestOf]
    exact ⟨rfl, rfl⟩
  | record index x report hw hx hs =>
    cases hr : report.isSuccess <;> simp [Counters.add, reportsIn, hr]
  | _ => exact ⟨rfl, rfl⟩

/-- A run of any dispatcher counts the reports that it sends. -/
theorem counted_of_run (h : d.run actions = some (d', events)) :
    d'.counters.delivered = d.counters.delivered + (reportsIn events).countP Report.isSuccess ∧
      d'.counters.failed =
        d.counters.failed + (reportsIn events).countP fun r => !r.isSuccess := by
  -- by induction on the actions, so that it holds from any dispatcher on
  induction actions generalizing d events with
  | nil =>
    cases h
    exact ⟨rfl, rfl⟩
  | cons action actions ih =>
    obtain ⟨d₁, first, more, hs, hm, rfl⟩ := run_cons_eq_some.1 h
    obtain ⟨hdelivered, hfailed⟩ := (Step.of_step hs).counted
    obtain ⟨hdelivered', hfailed'⟩ := ih hm
    rw [reportsIn_append, List.countP_append, List.countP_append]
    omega

/-- A step counts the reports that it sends and puts them into the channel. -/
theorem Step.tallies (hs : Step d action d' events) (ht : Tallies d sent) :
    Tallies d' (sent ++ reportsIn events) where
  delivered := by rw [hs.counted.1, ht.delivered, List.countP_append]
  failed := by rw [hs.counted.2, ht.failed, List.countP_append]
  channel := by
    -- only the sending of a report changes the channel
    cases hs with
    | deliver index move x y he hw hx hm =>
      rw [reportsIn_requestOf, List.append_nil]
      exact ht.channel
    | record index x report hw hx hs => exact ht.channel.send report
    | _ =>
      rw [← List.append_nil sent] at ht
      exact ht.channel

/-- The reports of a run are counted and kept. -/
theorem Run.tallies {config : Config} (hr : Run (create config) actions d events) :
    Tallies d (reportsIn events) := by
  induction hr with
  | start => exact ⟨rfl, rfl, ReportChannel.keeps_create _⟩
  | step hr hs ih =>
    rw [reportsIn_append]
    exact hs.tallies ih

/-! ## Rounds -/

/-- The rounds without recipients are those that were dropped, the reports of the rounds are these,
and no endpoint comes twice in a round. -/
structure Recorded (h : History) (d : Dispatcher) (sent : List Report) : Prop where
  dropped : d.counters.dropped = (h.rounds.map Round.recipients).countP List.isEmpty
  reports : h.reports = sent
  keyed : d.registry.IsKeyed
  distinct : ∀ recipients ∈ h.rounds.map Round.recipients, (recipients.map Endpoint.id).Nodup

/-- A round with different recipients leaves all rounds so. -/
theorem Recorded.distinct_addressed (hr : Recorded h d sent) (item : QueuedEnvelope)
    {recipients : List Endpoint} (hd : (recipients.map Endpoint.id).Nodup) :
    ∀ others ∈ (h.add (.addressed item recipients)).rounds.map Round.recipients,
      (others.map Endpoint.id).Nodup := by
  intro others hmem
  rw [rounds_add_addressed, List.map_append] at hmem
  rcases List.mem_append.1 hmem with hmem | hmem
  · exact hr.distinct others hmem
  · rw [List.mem_singleton.1 hmem]
    exact hd

/-- A step records the rounds that it begins and the reports that it sends. -/
theorem Step.recorded (hs : Step d action d' events) (hf : h.Follows d)
    (hr : Recorded h d sent) :
    Recorded (events.foldl add h) d' (sent ++ reportsIn events) := by
  cases hs with
  -- the registry stays keyed, on which the recipients of later rounds depend
  | configure action =>
    refine ⟨hr.dropped, ?_, hr.keyed.apply action, hr.distinct⟩
    simpa [reportsIn] using hr.reports
  | drop item hw hn =>
    refine ⟨?_, ?_, hr.keyed, hr.distinct_addressed item List.nodup_nil⟩
    · simp [hr.dropped]
    · simpa [reports_add_addressed, reportsIn] using hr.reports
  | fanOut item hw hn =>
    refine ⟨?_, ?_, hr.keyed, hr.distinct_addressed item (nodup_recipients hr.keyed item)⟩
    · simp [hr.dropped, hn]
    · simpa [reports_add_addressed, reportsIn] using hr.reports
  | deliver index move x y he hw hx hm =>
    rw [foldl_add_requestOf, reportsIn_requestOf, List.append_nil]
    exact ⟨hr.dropped, hr.reports, hr.keyed, hr.distinct⟩
  | record index x report hw hx hs =>
    -- a report is one of the latest round, since that one has the open deliveries
    have hlatest := hf.opened _ hw
    simp only [List.foldl_cons, List.foldl_nil]
    refine ⟨?_, ?_, hr.keyed, ?_⟩
    · rw [recipients_add_reported, Counters.add_dropped]
      exact hr.dropped
    · rw [reports_add_reported hlatest, hr.reports]
      rfl
    · rw [recipients_add_reported]
      exact hr.distinct
  | _ =>
    rw [← List.append_nil sent] at hr
    exact ⟨hr.dropped, hr.reports, hr.keyed, hr.distinct⟩

/-- The rounds and reports of a run are recorded. -/
theorem Run.recorded {config : Config} (hr : Run (create config) actions d events) :
    Recorded (History.of events) d (reportsIn events) := by
  induction hr with
  | start =>
    refine ⟨rfl, rfl, Registry.isKeyed_empty _, ?_⟩
    simp [History.of, empty, rounds]
  | step hr hs ih =>
    rw [of_append, reportsIn_append]
    exact hs.recorded hr.follows ih

/-! ## The sums -/

/-- Where each accepted envelope and each delivery is. -/
structure Accounts (h : History) (d : Dispatcher) : Prop where
  /-- An envelope that was accepted waits in the queue, or was taken. -/
  accepted : h.accepted.length = d.queue.pending.length + h.taken.length
  /-- An envelope that was taken was dropped, or has recipients, or is to have them looked up. -/
  taken : h.taken.length = d.counters.dropped +
    h.rounds.countP (fun r => !r.recipients.isEmpty) + d.worker.held.toList.length
  /-- The rounds are those of the envelopes that were taken. -/
  rounds : h.taken = h.rounds.map Round.item ++ d.worker.held.toList
  /-- For each recipient, a delivery has succeeded, has failed or is open. -/
  deliveries : d.counters.delivered + d.counters.failed + d.worker.deliveries.length =
    (h.rounds.map fun r => r.recipients.length).sum
  /-- A recipient has one report; in the latest round, one report or one open delivery. -/
  once : ∀ earlier round later, h.rounds = earlier ++ round :: later → ∀ e ∈ round.recipients,
    (round.reports.map Report.subject).count (round.subject e) +
      (if later = [] then (d.worker.deliveries.map Delivery.subject).count (round.subject e)
        else 0) = 1
  /-- A report of a round is about one of its recipients. -/
  about : ∀ round ∈ h.rounds, ∀ report ∈ round.reports,
    ∃ e ∈ round.recipients, report.subject = round.subject e
  /-- The deliveries that have succeeded are those with a report of it. -/
  delivered : d.counters.delivered = h.reports.countP Report.isSuccess
  /-- The deliveries that have failed are those with a report of it. -/
  failed : d.counters.failed = h.reports.countP fun r => !r.isSuccess

/-- There are as many reports and open deliveries as recipients. -/
theorem sum_recipients (hf : h.Follows d) :
    (h.rounds.map fun r => r.recipients.length).sum =
      h.reports.length + d.worker.deliveries.length := by
  -- the earlier rounds are settled, so that each recipient has its report
  have hearlier : h.earlier.map (fun r => r.recipients.length) =
      h.earlier.map fun r => r.reports.length := by
    refine List.map_congr_left fun r hr => ?_
    simpa using (Round.awaits_nil_iff.2 (hf.earlier r hr)).length.symm
  rw [length_reports]
  simp only [rounds, List.map_append, List.sum_append, hearlier]
  cases hl : h.latest with
  | none => simp [hf.deliveries_eq_nil hl]
  | some r =>
    -- in the latest one, open deliveries stand for the reports that are still to come
    have := (hf.latest r hl).length
    simp only [Option.toList_some, List.map_cons, List.map_nil, List.sum_cons, List.sum_nil,
      Nat.add_zero]
    omega

/-- A recipient has one report, or, in the latest round, perhaps one open delivery instead. -/
theorem count_eq_one (hf : h.Follows d) (hr : Recorded h d sent) {earlier later : List Round}
    {round : Round} (he : h.rounds = earlier ++ round :: later) {e : Endpoint}
    (hmem : e ∈ round.recipients) :
    (round.reports.map Report.subject).count (round.subject e) +
      (if later = [] then (d.worker.deliveries.map Delivery.subject).count (round.subject e)
        else 0) = 1 := by
  have hround : round ∈ h.rounds := by simp [he]
  have hcount := (hf.awaits he).count (hr.distinct _ (List.mem_map_of_mem hround)) hmem
  split
  next hlater => rwa [if_pos hlater] at hcount
  next hlater => simpa [if_neg hlater] using hcount

/-- The history, the reports and the rounds of a run make up its accounts. -/
theorem accounts (hf : h.Follows d) (ht : Tallies d sent) (hr : Recorded h d sent) :
    Accounts h d where
  accepted := by
    rw [hf.accepted, List.length_append, Nat.add_comm]
  taken := by
    -- an envelope is taken, then addressed; a round without recipients was dropped
    have hitems : h.taken.length = h.rounds.length + d.worker.held.toList.length := by
      rw [hf.taken, List.length_append, List.length_map]
    have hsplit := List.length_eq_countP_add_countP (fun r : Round => r.recipients.isEmpty)
      (l := h.rounds)
    have hdropped := hr.dropped
    rw [List.countP_map] at hdropped
    simp only [Function.comp_def, decide_not, Bool.decide_eq_true] at hdropped hsplit
    omega
  rounds := hf.taken
  deliveries := by
    rw [sum_recipients hf, ht.total, hr.reports]
  once := fun earlier round later he e hmem => count_eq_one hf hr he hmem
  about := by
    intro round hround report hmem
    obtain ⟨earlier, later, he⟩ := List.append_of_mem hround
    exact (hf.awaits he).about hmem
  delivered := by rw [hr.reports, ht.delivered]
  failed := by rw [hr.reports, ht.failed]

/-- What a caller is told adds up to where each accepted envelope and each delivery is. The envelope
of a producer that holds the lock of the queue counts as one that waits. -/
structure TellsOf (n : Statistics) (h : History) (d : Dispatcher) : Prop where
  /-- All endpoints are counted. -/
  total : n.totalEndpoints = d.registry.list.length
  /-- The enabled endpoints are counted. -/
  active : n.activeEndpoints = (d.registry.list.filter Endpoint.enabled).length
  /-- An envelope that was accepted, or is about to be, waits in the queue or was taken. -/
  queued : h.accepted.length + d.queue.appending.toList.length =
    n.queuedEnvelopes + h.taken.length
  /-- An envelope that was taken was dropped, or has recipients, or is to have them looked up. -/
  taken : h.taken.length = n.droppedEnvelopes +
    h.rounds.countP (fun r => !r.recipients.isEmpty) + d.worker.held.toList.length
  /-- For each recipient, a delivery has succeeded, has failed or is open. -/
  deliveries : n.delivered + n.failed + d.worker.deliveries.length =
    (h.rounds.map fun r => r.recipients.length).sum
  /-- The deliveries that have succeeded are those with a report of it. -/
  delivered : n.delivered = h.reports.countP Report.isSuccess
  /-- The deliveries that have failed are those with a report of it. -/
  failed : n.failed = h.reports.countP fun r => !r.isSuccess

/-- The statistics tell where everything is. -/
theorem Accounts.tellsOf (ha : Accounts h d) : TellsOf d.statistics h d where
  total := (List.length_map _).symm
  active := rfl
  queued := by
    -- the queue is counted when the lock is free, with the envelope of its holder
    have hpending : d.statistics.queuedEnvelopes =
        d.queue.pending.length + d.queue.appending.toList.length := by
      rw [← List.length_append, ← pending_release]
      rfl
    rw [ha.accepted, hpending]
    omega
  taken := ha.taken
  deliveries := ha.deliveries
  delivered := ha.delivered
  failed := ha.failed

/-! ## Readers -/

/-- From the moment at which a reader subscribes, the dispatcher goes on and the reader reads, in
any order: the dispatcher and the reader after that, and what has happened. -/
inductive Reads (d₀ : Dispatcher) : Dispatcher → ReportReader → List Occurrence → Prop where
  | subscribe : Reads d₀ d₀ (.subscribe d₀.reports) []
  | step {d d' : Dispatcher} {x : ReportReader} {events more : List Occurrence} {action : Action}
    (hr : Reads d₀ d x events) (hs : d.step action = some (d', more)) :
    Reads d₀ d' x (events ++ more)
  | receive {d : Dispatcher} {x y : ReportReader} {events : List Occurrence}
    (hr : Reads d₀ d x events) (hx : x.receive? d.reports = some y) : Reads d₀ d y events

/-- A reader follows the reports that are sent, from its subscription on. -/
theorem Reads.follows {x : ReportReader} (hr : Reads d₀ d x events) (ht : Tallies d₀ sent) :
    Tallies d (sent ++ reportsIn events) ∧
      x.Follows (sent ++ reportsIn events) sent.length := by
  induction hr with
  | subscribe =>
    rw [show reportsIn [] = [] from rfl, List.append_nil]
    exact ⟨ht, ReportReader.follows_subscribe ht.channel⟩
  | step hr hs ih =>
    rw [reportsIn_append, ← List.append_assoc]
    exact ⟨(Step.of_step hs).tallies ih.1, ih.2.append _⟩
  | receive hr hx ih => exact ⟨ih.1, ih.2.receive ih.1.channel hx⟩

/-! ## The account of a run -/

/-- In every run of a new dispatcher, the envelopes and the deliveries add up, and so does what the
statistics tell of them; a step counts each report that it sends; and one who subscribes to the
reports then gets reports that are sent from then on, in order, and when nothing is left to read,
these and those that were lost are the growth of the counters. -/
theorem every_event_accounted_for (config : Config) (actions : List Action)
    (h : (create config).run actions = some (d, events)) :
    Accounts (History.of events) d ∧ TellsOf d.statistics (History.of events) d ∧
      (History.of events).reports = reportsIn events ∧
      (∀ action d' now, d.step action = some (d', now) →
        d'.counters.delivered = d.counters.delivered + (reportsIn now).countP Report.isSuccess ∧
        d'.counters.failed =
          d.counters.failed + (reportsIn now).countP fun r => !r.isSuccess) ∧
      ∀ d' x since, Reads d d' x since → x.got.Sublist (reportsIn since) ∧
        (x.receive? d'.reports = none →
          d.counters.delivered + d.counters.failed + (x.got.length + x.lost) =
            d'.counters.delivered + d'.counters.failed) := by
  have hr := run_iff.1 h
  have ht := hr.tallies
  have haccounts := accounts hr.follows ht hr.recorded
  refine ⟨haccounts, haccounts.tellsOf, hr.recorded.reports, ?_, ?_⟩
  · intro action d' now hs
    have ht' := (Step.of_step hs).tallies ht
    rw [ht.delivered, ht.failed, ht'.delivered, ht'.failed, List.countP_append,
      List.countP_append]
    exact ⟨rfl, rfl⟩
  · intro d' x since hx
    obtain ⟨ht', hf⟩ := hx.follows ht
    refine ⟨?_, fun hn => ?_⟩
    · -- what was sent before the reader subscribed is dropped from all that was sent
      have hgot := hf.sublist.trans ((List.take_sublist ..).drop _)
      rwa [List.drop_left] at hgot
    · have hcount := hf.count
      -- a reader with nothing left to read is at the end of the reports
      rw [hf.position_eq ht'.channel hn] at hcount
      rw [ht.total, ht'.total]
      omega

/-- The session is accounted for. -/
theorem session_accounted_for : ∃ d events,
    (create Config.default).run Session.script = some (d, events) ∧
      Accounts (History.of events) d ∧ TellsOf d.statistics (History.of events) d ∧
      (History.of events).reports = reportsIn events := by
  obtain ⟨d, events, h, -⟩ := Session.exists_run
  obtain ⟨haccounts, htells, hreports, -, -⟩ :=
    every_event_accounted_for Config.default Session.script h
  exact ⟨d, events, h, haccounts, htells, hreports⟩

end Dispatcher

end Webhook
