import Mathlib.Data.List.Perm.Basic
import Webhook.Proofs.Dispatcher.Steps

/-!
# The history of a dispatcher

What has happened so far, read off the occurrences alone: the envelopes that were refused, accepted
and taken, and a round for each envelope whose recipients were looked up, with the reports that were
sent from then until the next round. A round is settled when its reports are one for each recipient.

`Follows` ties a dispatcher to its history. Between the two there is never more than one envelope
(`held`) and one round (`latest`), whose open deliveries the worker has. Each step keeps it
(`Step.follows`), hence each run (`Run.follows`); order, closing and accounting are read off it.
-/

namespace Webhook

/-! ## Rounds -/

/-- An envelope whose recipients were looked up, and the reports that were sent from then on. -/
structure Round where
  /-- The envelope. -/
  item : QueuedEnvelope
  /-- The endpoints that it goes to. -/
  recipients : List Endpoint
  /-- The reports, oldest first. -/
  reports : List Report

namespace Round

/-- What the report of the delivery to an endpoint is about. -/
def subject (r : Round) (e : Endpoint) : EventId × EventType × EndpointId :=
  (r.item.envelope.id, r.item.envelope.eventType, e.id)

/-- There is one report for each recipient, and no other. -/
def IsSettled (r : Round) : Prop :=
  (r.reports.map Report.subject).Perm (r.recipients.map r.subject)

/-- There is one report or one of these deliveries for each recipient, and no other. -/
structure Awaits (r : Round) (deliveries : List Delivery) : Prop where
  perm : (r.reports.map Report.subject ++ deliveries.map Delivery.subject).Perm
    (r.recipients.map r.subject)
  envelope : ∀ x ∈ deliveries, x.envelope = r.item.envelope
  endpoint : ∀ x ∈ deliveries, x.endpoint ∈ r.recipients
  report : ∀ x ∈ deliveries, ∀ report, x.phase = .settled report → report.subject = x.subject

variable {r : Round} {deliveries : List Delivery}

/-- A round without open deliveries is settled. -/
theorem awaits_nil_iff : r.Awaits [] ↔ r.IsSettled := by
  constructor
  · intro h
    simpa [IsSettled] using h.perm
  · intro h
    exact ⟨by simpa [IsSettled] using h, by simp, by simp, by simp⟩

/-- A round begins with a delivery for each recipient. -/
theorem awaits_start (item : QueuedEnvelope) (recipients : List Endpoint) (now : Nat) :
    (⟨item, recipients, []⟩ : Round).Awaits
      (recipients.map (Delivery.start now item.envelope)) := by
  -- there are no reports yet, and one open delivery for each recipient
  refine ⟨?_, ?_, ?_, ?_⟩
  · rw [List.map_map]
    exact List.Perm.refl _
  · intro x hx
    obtain ⟨e, -, rfl⟩ := List.mem_map.1 hx
    rfl
  · intro x hx
    obtain ⟨e, he, rfl⟩ := List.mem_map.1 hx
    exact he
  · intro x hx report hp
    obtain ⟨e, -, rfl⟩ := List.mem_map.1 hx
    cases hp

/-- A round without recipients is settled. -/
theorem isSettled_of_no_recipients (item : QueuedEnvelope) :
    (⟨item, [], []⟩ : Round).IsSettled := List.Perm.refl _

/-- A delivery that moves stays the delivery of its round. -/
theorem Awaits.move (h : r.Awaits deliveries) {index : Nat} {x y : Delivery} {sender : Sender}
    {now : Nat} {m : Delivery.Move} (hx : deliveries[index]? = some x)
    (hm : x.move? sender now m = some y) : r.Awaits (deliveries.set index y) := by
  obtain ⟨hi, rfl⟩ := List.getElem?_eq_some_iff.1 hx
  obtain ⟨he, hv⟩ := Delivery.move?_frame hm
  have hmem : deliveries[index] ∈ deliveries := List.getElem_mem hi
  have hs : y.subject = (deliveries[index]).subject := by simp only [Delivery.subject, he, hv]
  -- what holds of all deliveries holds after one of them was replaced, if it holds of that one
  have hall : ∀ {p : Delivery → Prop}, (∀ z ∈ deliveries, p z) → p y →
      ∀ z ∈ deliveries.set index y, p z := by
    intro p hp hy z hz
    rcases List.mem_or_eq_of_mem_set hz with hz | rfl
    · exact hp z hz
    · exact hy
  refine ⟨?_, hall h.envelope ?_, hall h.endpoint ?_, hall h.report ?_⟩
  · -- the list of what the deliveries are about stays the same
    have hset : (deliveries.set index y).map Delivery.subject =
        deliveries.map Delivery.subject := by
      rw [List.map_set, hs, ← List.getElem_map Delivery.subject (h := by simpa using hi),
        List.set_getElem_self]
    rw [hset]
    exact h.perm
  · rw [hv]
    exact h.envelope _ hmem
  · rw [he]
    exact h.endpoint _ hmem
  · intro report hr
    exact Delivery.subject_of_move? hm hr

/-- A round with one more report. -/
def addReport (r : Round) (report : Report) : Round :=
  { r with reports := r.reports ++ [report] }

/-- What a delivery is about does not depend on the reports of the round. -/
@[simp]
theorem addReport_subject (report : Report) : (r.addReport report).subject = r.subject := rfl

/-- A report changes no recipients. -/
@[simp]
theorem addReport_recipients (report : Report) :
    (r.addReport report).recipients = r.recipients := rfl

/-- A report comes after those that are there. -/
@[simp]
theorem addReport_reports (report : Report) :
    (r.addReport report).reports = r.reports ++ [report] := rfl

/-- The report of a delivery takes the delivery's place. -/
theorem Awaits.record (h : r.Awaits deliveries) {index : Nat} {x : Delivery} {report : Report}
    (hx : deliveries[index]? = some x) (hp : x.phase = .settled report) :
    (r.addReport report).Awaits (deliveries.eraseIdx index) := by
  obtain ⟨hi, rfl⟩ := List.getElem?_eq_some_iff.1 hx
  have hsub : ∀ z ∈ deliveries.eraseIdx index, z ∈ deliveries :=
    fun z hz => List.mem_of_mem_eraseIdx hz
  refine ⟨?_, fun z hz => h.envelope z (hsub z hz), fun z hz => h.endpoint z (hsub z hz),
    fun z hz => h.report z (hsub z hz)⟩
  -- the subject of the delivery goes from the right part of the list to the end of the left one
  have hs := h.report _ (List.getElem_mem hi) _ hp
  have herase := (List.getElem_cons_eraseIdx_perm hi).map Delivery.subject
  rw [List.map_cons, ← hs] at herase
  have hperm := (herase.append_left (r.reports.map Report.subject)).trans h.perm
  simpa using hperm

end Round

/-! ## Histories -/

/-- What has happened to a dispatcher so far. -/
structure History where
  /-- The envelopes that were refused, oldest first. -/
  refused : List QueuedEnvelope
  /-- The envelopes that were appended to the queue, oldest first. -/
  accepted : List QueuedEnvelope
  /-- The envelopes that were taken from the queue, oldest first. -/
  taken : List QueuedEnvelope
  /-- The rounds before the latest, oldest first. -/
  earlier : List Round
  /-- The latest round, if there has been one. -/
  latest : Option Round

namespace History

/-- The history in which nothing has happened. -/
def empty : History := ⟨[], [], [], [], none⟩

/-- The rounds, oldest first. -/
def rounds (h : History) : List Round := h.earlier ++ h.latest.toList

/-- The history after one more occurrence. -/
def add (h : History) : Dispatcher.Occurrence → History
  | .refused item => { h with refused := h.refused ++ [item] }
  | .accepted item => { h with accepted := h.accepted ++ [item] }
  | .taken item => { h with taken := h.taken ++ [item] }
  | .addressed item recipients =>
    { h with earlier := h.rounds, latest := some ⟨item, recipients, []⟩ }
  | .requested _ _ _ => h
  | .reported report => { h with latest := h.latest.map (·.addReport report) }

/-- The history in which these things have happened. -/
def of (events : List Dispatcher.Occurrence) : History := events.foldl add empty

/-- The history grows by what has happened. -/
theorem of_append (events more : List Dispatcher.Occurrence) :
    of (events ++ more) = more.foldl add (of events) := List.foldl_append

/-- All reports, oldest first. -/
def reports (h : History) : List Report := h.rounds.flatMap Round.reports

/-- A delivery is one of the envelope that was taken last, and all deliveries of those taken before
have come to an end. -/
def Serves (h : History) (x : Delivery) : Prop :=
  ∃ earlier round, h.rounds = earlier ++ [round] ∧
    h.taken = earlier.map Round.item ++ [round.item] ∧ (∀ r ∈ earlier, r.IsSettled) ∧
    x.envelope = round.item.envelope ∧ x.endpoint ∈ round.recipients

end History

/-- The envelope that the worker has taken without having looked up its recipients. -/
def Worker.held : Worker → Option QueuedEnvelope
  | .addressing item => some item
  | _ => none

/-- The deliveries whose reports are not sent yet. -/
def Worker.deliveries : Worker → List Delivery
  | .delivering deliveries => deliveries
  | _ => []

/-- How many envelopes the worker is delivering. -/
def Worker.fanOuts : Worker → Nat
  | .delivering _ => 1
  | _ => 0

/-- The history is that of the dispatcher: its queue and its worker hold what the history leaves
open. -/
structure History.Follows (h : History) (d : Dispatcher) : Prop where
  accepted : h.accepted = h.taken ++ d.queue.pending
  taken : h.taken = h.rounds.map Round.item ++ d.worker.held.toList
  earlier : ∀ r ∈ h.earlier, r.IsSettled
  latest : ∀ r ∈ h.latest, r.Awaits d.worker.deliveries
  opened : ∀ deliveries, d.worker = .delivering deliveries → h.latest.isSome

namespace History.Follows

variable {d d' : Dispatcher} {h : History}

/-- A history follows a dispatcher whose queue and worker leave the same open. -/
theorem frame (hf : h.Follows d) (hp : d'.queue.pending = d.queue.pending)
    (hh : d'.worker.held = d.worker.held) (hd : d'.worker.deliveries = d.worker.deliveries)
    (ho : ∀ deliveries, d'.worker = .delivering deliveries → d'.worker = d.worker) :
    h.Follows d' where
  accepted := by rw [hp, hf.accepted]
  taken := by rw [hh, hf.taken]
  earlier := hf.earlier
  latest := by rw [hd]; exact hf.latest
  opened := fun deliveries hw => hf.opened deliveries (ho deliveries hw ▸ hw)

/-- When no delivery is open, all rounds are settled. -/
theorem settled (hf : h.Follows d) (hd : d.worker.deliveries = []) :
    ∀ r ∈ h.rounds, r.IsSettled := by
  intro r hr
  rcases List.mem_append.1 hr with hr | hr
  · exact hf.earlier r hr
  · have := hf.latest r (by simpa using hr)
    rw [hd] at this
    exact Round.awaits_nil_iff.1 this

end History.Follows

namespace Dispatcher

open History

variable {d d' : Dispatcher} {action : Action} {actions : List Action} {events : List Occurrence}
  {h : History}

/-- A request is no part of the history. -/
theorem foldl_add_requestOf (x : Delivery) (now : Nat) : (requestOf x now).foldl add h = h := by
  unfold requestOf
  split <;> rfl

/-- A step keeps the history in line with the dispatcher. -/
theorem Step.follows (hs : Step d action d' events) (hf : h.Follows d) :
    (events.foldl add h).Follows d' := by
  cases hs with
  | refuse item hl ha => exact ⟨hf.accepted, hf.taken, hf.earlier, hf.latest, hf.opened⟩
  | append item hi =>
    refine ⟨?_, hf.taken, hf.earlier, hf.latest, hf.opened⟩
    simp [add, Queue.append, hf.accepted]
  | take item later hw hl hp =>
    have htaken := hf.taken
    have haccepted := hf.accepted
    rw [hw] at htaken
    rw [hp] at haccepted
    refine ⟨?_, ?_, hf.earlier, ?_, by simp⟩
    · simpa [add] using haccepted
    · simp [add, rounds, Worker.held, htaken]
    · have := hf.latest
      rwa [hw] at this
  | drop item hw hr =>
    have htaken := hf.taken
    rw [hw] at htaken
    -- no delivery is open, so that the round that was the latest is settled
    refine ⟨hf.accepted, ?_, hf.settled (by rw [hw]; rfl), ?_, by simp⟩
    · simpa [add, rounds, Worker.held] using htaken
    · intro r hr
      cases hr
      exact Round.awaits_nil_iff.2 (Round.isSettled_of_no_recipients item)
  | fanOut item hw hr =>
    have htaken := hf.taken
    rw [hw] at htaken
    refine ⟨hf.accepted, ?_, hf.settled (by rw [hw]; rfl), ?_, fun _ _ => rfl⟩
    · simpa [add, rounds, Worker.held] using htaken
    · intro r hr
      cases hr
      exact Round.awaits_start item _ d.now
  | deliver index move x y he hw hx hm =>
    rw [foldl_add_requestOf]
    have htaken := hf.taken
    have hlatest := hf.latest
    rw [hw] at htaken hlatest
    exact ⟨hf.accepted, htaken, hf.earlier, fun r hr => (hlatest r hr).move hx hm,
      fun _ _ => hf.opened _ hw⟩
  | record index x report hw hx hs =>
    have htaken := hf.taken
    have hlatest := hf.latest
    have hopened := hf.opened _ hw
    rw [hw] at htaken hlatest
    obtain ⟨r, hr⟩ := Option.isSome_iff_exists.1 hopened
    -- the report goes to the latest round, of which the delivery is one
    refine ⟨hf.accepted, ?_, hf.earlier, ?_, ?_⟩
    · simpa [add, rounds, hr, Round.addReport, Worker.held] using htaken
    · intro r' hr'
      simp only [List.foldl_cons, List.foldl_nil, add, hr] at hr'
      cases hr'
      exact (hlatest r hr).record hx hs
    · simp [add, hr]
  | rest hw hl hp => exact hf.frame (by rfl) (by rw [hw]; rfl) (by rw [hw]; rfl) (by simp)
  | park hw ha => exact hf.frame rfl (by rw [hw]; rfl) (by rw [hw]; rfl) (by simp)
  | stop hw ha => exact hf.frame rfl (by rw [hw]; rfl) (by rw [hw]; rfl) (by simp)
  | wake hw hp => exact hf.frame rfl (by rw [hw]; rfl) (by rw [hw]; rfl) (by simp)
  | finish hw => exact hf.frame rfl (by rw [hw]; rfl) (by rw [hw]; rfl) (by simp)
  | _ => exact hf.frame rfl rfl rfl (fun _ _ => rfl)

/-- The history of a run is that of the dispatcher at its end. -/
theorem Run.follows {config : Config} (hr : Run (create config) actions d events) :
    (History.of events).Follows d := by
  induction hr with
  | start =>
    exact ⟨rfl, rfl, by simp [History.of, empty], by simp [History.of, empty], by simp [create]⟩
  | step hr hs ih =>
    rw [of_append]
    exact hs.follows ih

/-! ## Deliveries -/

/-- Each open delivery has come to where it stands by a course from its start. -/
def HasCourses (d : Dispatcher) : Prop :=
  ∀ x ∈ d.worker.deliveries, ∃ now log,
    Delivery.Course d.sender (Delivery.start now x.envelope x.endpoint) x log

/-- There is nothing to show where no delivery is open. -/
theorem HasCourses.of_nil (h : d.worker.deliveries = []) : HasCourses d := by
  simp [HasCourses, h]

/-- A delivery that the worker has under way has a course. -/
theorem HasCourses.exists_of_mem {deliveries : List Delivery} {x : Delivery} (hc : HasCourses d)
    (hw : d.worker = .delivering deliveries) (hx : x ∈ deliveries) : ∃ now log,
      Delivery.Course d.sender (Delivery.start now x.envelope x.endpoint) x log := by
  refine hc x ?_
  rw [hw]
  exact hx

/-- What all deliveries have in common never changes. -/
theorem Step.sender (hs : Step d action d' events) : d'.sender = d.sender := by
  cases hs <;> rfl

/-- A step goes on with the courses of the open deliveries. -/
theorem Step.hasCourses (hs : Step d action d' events) (hc : HasCourses d) : HasCourses d' := by
  cases hs with
  -- a delivery begins with the course that has no moves
  | fanOut item hw hr =>
    intro x hx
    obtain ⟨e, -, rfl⟩ := List.mem_map.1 hx
    exact ⟨d.now, [], .start⟩
  | deliver index move x y he hw hx hm =>
    intro z hz
    rcases List.mem_or_eq_of_mem_set hz with hz | rfl
    · exact hc.exists_of_mem hw hz
    · -- the delivery that moves goes on with its own course
      obtain ⟨now, log, hcourse⟩ := hc.exists_of_mem hw (List.mem_of_getElem? hx)
      obtain ⟨hendpoint, henvelope⟩ := Delivery.move?_frame hm
      rw [hendpoint, henvelope]
      exact ⟨now, _, hcourse.move d.now move hm⟩
  | record index x report hw hx hs =>
    exact fun z hz => hc.exists_of_mem hw (List.mem_of_mem_eraseIdx hz)
  | rest => exact .of_nil rfl
  | take => exact .of_nil rfl
  | drop => exact .of_nil rfl
  | park => exact .of_nil rfl
  | stop => exact .of_nil rfl
  | wake => exact .of_nil rfl
  | finish => exact .of_nil rfl
  | _ => exact hc

/-- In a run of a new dispatcher, each open delivery has a course. -/
theorem Run.hasCourses {config : Config} (hr : Run (create config) actions d events) :
    HasCourses d ∧ d.sender = ⟨config.userAgent, config.requestTimeout⟩ := by
  induction hr with
  | start => exact ⟨.of_nil rfl, rfl⟩
  | step hr hs ih => exact ⟨hs.hasCourses ih.1, hs.sender.trans ih.2⟩

/-- Each report that is sent is that of a delivery, at the end of a course from its start. -/
theorem Run.exists_course {config : Config} (hr : Run (create config) actions d events)
    {report : Report} (hmem : .reported report ∈ events) :
    ∃ x now log, Delivery.Course ⟨config.userAgent, config.requestTimeout⟩
      (Delivery.start now x.envelope x.endpoint) x log ∧ x.phase = .settled report := by
  obtain ⟨before, after, he⟩ := List.append_of_mem hmem
  obtain ⟨_, action, _, d₁, d₂, -, hb, hs, -⟩ := hr.split he
  obtain ⟨hcourses, hsender⟩ := hb.hasCourses
  obtain ⟨deliveries, index, x, hw, hx, hp⟩ := hs.of_reported
  obtain ⟨now, log, hc⟩ := hcourses.exists_of_mem hw (List.mem_of_getElem? hx)
  exact ⟨x, now, log, hsender ▸ hc, hp⟩

end Dispatcher

end Webhook
