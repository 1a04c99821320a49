import Webhook.Proofs.Delivery.Responses
import Webhook.Proofs.Dispatcher.Retries

/-!
# The status in a report

The status in a report is that of the last attempt. It is that of the latest response as well,
unless the last attempt got no response and an earlier one did: then the report tells of no response
at all. `status_latest_iff` says so of every delivery, and `refusal_untold` is a delivery whose
report does not tell of a refusal.
-/

namespace Webhook.Dispatcher

open Delivery (Stage Attempt Stays inTurn latestStatus? timelyStatus?)

/-- A delivery has come to its end with these attempts, and its report tells this of the responses
that they got. -/
structure TellsStatus (sender : Sender) (answers : Http.Answers) (envelope : Envelope)
    (endpoint : Endpoint) (n : Nat) (earlier : List Attempt) (last : Attempt)
    (report : Report) : Prop where
  /-- It ends after so many moves. -/
  settled : (Stage.after sender answers envelope endpoint n).delivery.phase = .settled report
  /-- These are its attempts. -/
  ended : (Stage.journal sender answers envelope endpoint n).ended = earlier ++ [last]
  /-- The report counts them. -/
  attempts : report.attempts = earlier.length + 1
  /-- The status in the report is that of the response to the last attempt. -/
  status_eq : report.status = last.status?
  /-- It is that of the latest response, or none without any, exactly if the last attempt got a
  response or no attempt did. -/
  latest_iff : report.status = latestStatus? (earlier ++ [last]) ↔
    last.status?.isSome ∨ ∀ a ∈ earlier, a.status? = none
  /-- A status that an attempt got is that of a response, which came when the attempt ended. -/
  responded : ∀ a ∈ earlier ++ [last], ∀ status, a.status? = some status →
    ∃ k < n, (Stage.after sender answers envelope endpoint k).IsAnswered answers a.finish status
  /-- Where the attempts are answered in turn, those get a response whose answer is one and comes
  in time. -/
  answered : ∀ replies r, answers = inTurn replies →
    (∀ k delay reply, replies k = some (delay, reply) → Stays reply) →
    (Delivery.start 0 envelope endpoint).request sender = .ok r →
    ∀ k a, (earlier ++ [last])[k]? = some a → a.status? = timelyStatus? sender (replies (k + 1))
  /-- A dispatcher comes to the same report. -/
  alone : DoesAsAlone sender answers envelope endpoint n report

/-- A delivery comes to its end, for an endpoint with any retry policy and whatever is answered. Its
report has the status of the last attempt, which is that of the latest response exactly if the last
attempt got a response, or none did. -/
theorem status_latest_iff (sender : Sender) (answers : Http.Answers) (envelope : Envelope)
    (endpoint : Endpoint) : ∃ n earlier last report,
      TellsStatus sender answers envelope endpoint n earlier last report := by
  -- the stage at which the delivery has settled, whose journal holds every attempt
  obtain ⟨n, earlier, last, report, hp, hended, -, hretries⟩ :=
    Stage.exists_retries sender answers envelope endpoint
  have hstatus : report.status = last.status? := hretries.status_eq
  refine ⟨n, earlier, last, report, {
    settled := hp
    ended := hended
    attempts := hretries.attempts
    status_eq := hstatus
    latest_iff := hstatus ▸ Delivery.status?_eq_latestStatus?_iff earlier last
    responded := hended ▸ fun _ ha _ hs => Stage.isAnswered_of_status? ha hs
    answered := ?answered
    alone := doesAsAlone hp }⟩
  case answered =>
    -- answers that redirect nowhere are taken in turn, one for each attempt
    rintro replies r rfl hstay hr k a ha
    rw [← hended] at ha
    exact (Stage.taken_journal hr hstay n).status?_eq ha

namespace Session

/-- An endpoint that is tried twice. -/
def twice : Endpoint := { patient with retryPolicy := ⟨2, 10⟩ }

/-- Silence, and then a refusal after a while. -/
def refusedLast : Nat → Option (Nat × Http.Reply)
  | 1 => none
  | _ => some (50, .response 503 none)

/-- A refusal, and then connections that break. -/
def refusedFirst : Nat → Option (Nat × Http.Reply)
  | 1 => some (0, .response 503 none)
  | _ => some (0, .broken)

/-- The last attempt is refused, and the report tells the status of the latest response. -/
theorem refusal_told : ∃ n a b report,
    (Stage.after (create Config.default).sender (inTurn refusedLast) (sampleEnvelope "first") twice
        n).delivery.phase = .settled report ∧
      (Stage.journal (create Config.default).sender (inTurn refusedLast) (sampleEnvelope "first")
        twice n).ended = [a, b] ∧
      a.status? = none ∧ b.status? = some 503 ∧
      report.status = some 503 ∧ report.status = latestStatus? [a, b] := by
  obtain ⟨n, earlier, last, report, htells⟩ :=
    status_latest_iff (create Config.default).sender (inTurn refusedLast) (sampleEnvelope "first")
      twice
  have hp := htells.settled
  -- the fourth stage is the settled one
  have hfourth : (Stage.after (create Config.default).sender (inTurn refusedLast)
      (sampleEnvelope "first") twice 4).delivery.phase =
        .settled ⟨⟨"first"⟩, .groupCreated, ⟨"one"⟩, .failed (.status 503), some 503, 2⟩ := by
    decide +kernel
  rw [Stage.eq_of_settled hp hfourth, hp] at hfourth
  cases hfourth
  obtain ⟨a, rfl⟩ := List.length_eq_one_iff.1 (Nat.succ.inj htells.attempts).symm
  have hlast : last.status? = some 503 := htells.status_eq.symm
  have hstay : ∀ k delay reply, refusedLast k = some (delay, reply) → Stays reply := by
    intro k delay reply hk
    unfold refusedLast at hk
    split at hk <;> cases hk
    rfl
  -- the attempt has a request, so the first answer is taken by the first attempt
  have hsent : ((Delivery.start 0 (sampleEnvelope "first") twice).request
      (create Config.default).sender).isOk = true := by decide +kernel
  obtain ⟨r, hr⟩ := Except.isOk_iff.1 hsent
  have hfirst : a.status? = none := htells.answered refusedLast r rfl hstay hr 0 a rfl
  have hlatest : last.status?.isSome := by
    rw [hlast]
    rfl
  exact ⟨n, a, last, _, hp, htells.ended, hfirst, hlast, rfl,
    htells.latest_iff.2 (.inl hlatest)⟩

/-- The first attempt is refused, and the second one gets no response: the report of the delivery,
which a dispatcher comes to as well, tells of no response. -/
theorem refusal_untold : ∃ a b report,
    (Stage.after (create Config.default).sender (inTurn refusedFirst) (sampleEnvelope "first") twice
        4).delivery.phase = .settled report ∧
      (Stage.journal (create Config.default).sender (inTurn refusedFirst) (sampleEnvelope "first")
        twice 4).ended = [a, b] ∧
      a.result = .error (.status 503) ∧
      b.result = .error (.network "error sending request for url (http://a.test/hook)") ∧
      latestStatus? [a, b] = some 503 ∧ report.status = none ∧
      DoesAsAlone (create Config.default).sender (inTurn refusedFirst) (sampleEnvelope "first")
        twice 4 report := by
  have hp : (Stage.after (create Config.default).sender (inTurn refusedFirst)
      (sampleEnvelope "first") twice 4).delivery.phase =
        .settled ⟨⟨"first"⟩, .groupCreated, ⟨"one"⟩,
          .failed (.network "error sending request for url (http://a.test/hook)"), none, 2⟩ := by
    decide +kernel
  -- both attempts, as the journal holds them
  have hended : (Stage.journal (create Config.default).sender (inTurn refusedFirst)
      (sampleEnvelope "first") twice 4).ended =
        [⟨0, 0, .error (.status 503)⟩,
          ⟨10, 10, .error (.network "error sending request for url (http://a.test/hook)")⟩] := by
    decide +kernel
  exact ⟨_, _, _, hp, hended, rfl, rfl, rfl, rfl, doesAsAlone hp⟩

end Session

end Webhook.Dispatcher
