import Webhook.Proofs.Delivery.Turns
import Webhook.Proofs.Dispatcher.FanOut

/-!
# Every delivery is tried as its policy says

`retried_until_delivered` follows a delivery to its end, for an endpoint with any retry policy and
whatever its server answers (`IsTried`). A dispatcher that delivers to this endpoint, beside any
others, sends the same requests at the same times and comes to the same report (`DoesAsAlone`). The
number of an attempt and the waits in between fit into their words.
-/

namespace Webhook

open Delivery (Stage Retries Taken Stays inTurn)

/-- The number of an attempt that is not the last one can be counted on in 32 bits. -/
theorem RetryPolicy.toNat_ofNat_succ {policy : RetryPolicy} {k : Nat} (h : k < policy.attempts) :
    (UInt32.ofNat k + 1).toNat = k + 1 := by
  have hmost : policy.attempts < UInt32.size :=
    Nat.max_lt.2 ⟨by decide, policy.maxRetries.toNat_lt⟩
  have hk : (UInt32.ofNat k).toNat = k := UInt32.toNat_ofNat_of_lt' (by omega)
  have hone : (1 : UInt32).toNat = 1 := rfl
  rw [UInt32.toNat_add, hk, hone]
  exact Nat.mod_eq_of_lt (Nat.lt_of_le_of_lt h hmost)

/-- A wait is a number of 64 bits. -/
theorem RetryPolicy.toNat_ofNat_delayAfter (policy : RetryPolicy) (k : Nat) :
    (UInt64.ofNat (policy.delayAfter k)).toNat = policy.delayAfter k :=
  UInt64.toNat_ofNat_of_lt' (Nat.lt_of_le_of_lt (Nat.min_le_right ..) (by decide))

namespace Dispatcher

variable {sender : Sender} {envelope : Envelope} {endpoint : Endpoint} {answers : Http.Answers}
  {n : Nat} {report : Report}

/-- In every fan-out of an envelope with this sender, to an endpoint that is answered so and beside
any others, the delivery to the endpoint sends the requests that it sends alone in so many moves, at
the same times from the start, and comes to this report. -/
def DoesAsAlone (sender : Sender) (answers : Http.Answers) (envelope : Envelope)
    (endpoint : Endpoint) (n : Nat) (report : Report) : Prop :=
  ∀ d endpoints servers actions f, Begins d envelope endpoints → d.sender = sender →
    endpoint ∈ endpoints → servers endpoint.id = answers →
    (FanOut.of d).run? servers actions = some f →
    f.sent endpoint.id <+: (Stage.after sender answers envelope endpoint n).sent ∧
      ∀ r ∈ f.reports, r.endpointId = endpoint.id →
        r = report ∧ f.sent endpoint.id = (Stage.after sender answers envelope endpoint n).sent

/-- In any fan-out the endpoint is sent what the delivery alone sends, and gets its report. -/
theorem doesAsAlone
    (hp : (Stage.after sender answers envelope endpoint n).delivery.phase = .settled report) :
    DoesAsAlone sender answers envelope endpoint n report := by
  rintro d endpoints servers actions f hb rfl he rfl hrun
  obtain ⟨k, hsent, hreports⟩ := ((FanOut.Keeps.of_begins hb servers).run hrun).exists_stage he
  rw [hsent]
  constructor
  · -- before its end the delivery has sent a part, and after it no more
    rcases Nat.le_total k n with hle | hle
    · exact Stage.sent_prefix_after hle
    · have heq := congrArg Stage.sent (Stage.after_of_settled hle hp)
      exact heq ▸ List.prefix_rfl
  · intro r hr hid
    -- both stages have settled, and a course settles once
    have hp' := hreports r hr hid
    have heq := Stage.eq_of_settled hp hp'
    rw [heq, hp] at hp'
    cases hp'
    exact ⟨rfl, by rw [heq]⟩

/-- A delivery has come to its end with these attempts. -/
structure IsTried (sender : Sender) (answers : Http.Answers) (envelope : Envelope)
    (endpoint : Endpoint) (n : Nat) (earlier : List Delivery.Attempt) (last : Delivery.Attempt)
    (report : Report) : Prop where
  /-- It ends after so many moves. -/
  settled : (Stage.after sender answers envelope endpoint n).delivery.phase = .settled report
  /-- These are its attempts. -/
  ended : (Stage.journal sender answers envelope endpoint n).ended = earlier ++ [last]
  /-- It ends when the last attempt ends. -/
  time : (Stage.journal sender answers envelope endpoint n).time = last.finish
  /-- The attempts and the report are as the policy of the endpoint wants them. -/
  retries : Retries endpoint.retryPolicy earlier last report
  /-- The number of an attempt can be counted on in 32 bits as long as another one follows. -/
  counter : ∀ k < report.attempts, (UInt32.ofNat k + 1).toNat = k + 1
  /-- Each wait is a number of 64 bits. -/
  wait : ∀ k, (UInt64.ofNat (endpoint.retryPolicy.delayAfter k)).toNat =
    endpoint.retryPolicy.delayAfter k
  /-- Each attempt sends its request when it starts. -/
  requested : ∀ r, (Delivery.start 0 envelope endpoint).request sender = .ok r →
    ∀ a ∈ earlier ++ [last], (a.start, r) ∈ (Stage.after sender answers envelope endpoint n).sent
  /-- Where the attempts are answered in turn, they are what these answers make of them. -/
  taken : ∀ replies r, answers = inTurn replies →
    (∀ k delay reply, replies k = some (delay, reply) → Stays reply) →
    (Delivery.start 0 envelope endpoint).request sender = .ok r →
    Taken sender r.url replies (earlier ++ [last])
  /-- It does the same in a dispatcher. -/
  alone : DoesAsAlone sender answers envelope endpoint n report

/-- A delivery comes to its end, whatever is answered. Its last attempt is the first one that
succeeds, or, if none does, the last one that the policy allows, and at least the first. The first
attempt starts at once, each later one after the wait that follows the one before it, and the
delivery ends with the last one. The report tells how many there were and what the last one came to.
The attempts can be answered in turn in any way, and a dispatcher that delivers to other endpoints
as well does the same. -/
theorem retried_until_delivered (sender : Sender) (answers : Http.Answers) (envelope : Envelope)
    (endpoint : Endpoint) : ∃ n earlier last report,
      IsTried sender answers envelope endpoint n earlier last report := by
  -- the stage at which the delivery has settled, whose journal holds every attempt
  obtain ⟨n, earlier, last, report, hp, hended, htime, hretries⟩ :=
    Stage.exists_retries sender answers envelope endpoint
  refine ⟨n, earlier, last, report, {
    settled := hp
    ended := hended
    time := htime
    retries := hretries
    counter := ?counter
    wait := RetryPolicy.toNat_ofNat_delayAfter _
    requested := ?requested
    taken := ?taken
    alone := doesAsAlone hp }⟩
  case counter =>
    intro k hk
    -- the counter stays within the bound of the policy, and does not wrap
    have hmost : k < endpoint.retryPolicy.attempts :=
      Nat.lt_of_lt_of_le (hretries.attempts ▸ hk) hretries.le
    exact RetryPolicy.toNat_ofNat_succ hmost
  case requested =>
    intro r hr
    rw [← hended]
    exact (Stage.requested_journal hr n).ended
  case taken =>
    rintro replies r rfl hstay hr
    rw [← hended]
    exact Stage.taken_journal hr hstay n

namespace Session

/-- An endpoint whose second wait would take more than 64 bits. -/
def patient : Endpoint where
  id := ⟨"one"⟩
  url := "http://a.test/hook"
  secret := "secret"
  events := EventSet.ofList [.groupCreated]
  enabled := true
  retryPolicy := ⟨3, 0x8000000000000000⟩
  headers := Dictionary.empty

/-- A refusal after a while, then silence, and then a success. -/
def replies : Nat → Option (Nat × Http.Reply)
  | 1 => some (50, .response 503 none)
  | 2 => none
  | _ => some (20, .response 200 none)

/-- The third attempt is the last one and succeeds, after the longest wait that there can be. -/
theorem retried_thrice : ∃ n a b c report,
    (Stage.after (create Config.default).sender (inTurn replies) (sampleEnvelope "first") patient
        n).delivery.phase = .settled report ∧
      (Stage.journal (create Config.default).sender (inTurn replies) (sampleEnvelope "first")
        patient n).ended = [a, b, c] ∧
      (a.start, a.finish) = (0, 50) ∧
      (b.start, b.finish) = (50 + 2 ^ 63, 10050 + 2 ^ 63) ∧
      (c.start, c.finish) = (10050 + 2 ^ 63 + (2 ^ 64 - 1), 10070 + 2 ^ 63 + (2 ^ 64 - 1)) ∧
      report.attempts = 3 ∧ report.outcome = .delivered ∧ report.status = some 200 := by
  obtain ⟨n, earlier, last, report, htried⟩ :=
    retried_until_delivered (create Config.default).sender (inTurn replies)
      (sampleEnvelope "first") patient
  have hp := htried.settled
  have hretries := htried.retries
  -- the sixth stage is the settled one
  have hsixth : (Stage.after (create Config.default).sender (inTurn replies)
      (sampleEnvelope "first") patient 6).delivery.phase =
        .settled ⟨⟨"first"⟩, .groupCreated, ⟨"one"⟩, .delivered, some 200, 3⟩ := by
    decide +kernel
  rw [Stage.eq_of_settled hp hsixth, hp] at hsixth
  cases hsixth
  have hstay : ∀ k delay reply, replies k = some (delay, reply) → Stays reply := by
    intro k delay reply hk
    unfold replies at hk
    split at hk <;> cases hk <;> rfl
  have hsent : ((Delivery.start 0 (sampleEnvelope "first") patient).request
      (create Config.default).sender).isOk = true := by decide +kernel
  obtain ⟨r, hr⟩ := Except.isOk_iff.1 hsent
  have htaken := htried.taken replies r rfl hstay hr
  obtain ⟨a, b, rfl⟩ := List.length_eq_two.1 (Nat.succ.inj hretries.attempts).symm
  have ha : a.finish = a.start + 50 := (htaken 0 a rfl).1
  have hb : b.finish = b.start + 10000 := (htaken 1 b rfl).1
  have hc : last.finish = last.start + 20 := (htaken 2 last rfl).1
  have hfirst := hretries.spaced.first a rfl
  have hsecond := hretries.spaced.next 0 a b rfl rfl
  have hthird := hretries.spaced.next 1 b last rfl rfl
  -- the first wait is as declared, and the second is cut off at the greatest word of 64 bits
  have hwait : min (patient.retryPolicy.retryDelayMs.toNat * (0 + 1)) (UInt64.size - 1) =
      2 ^ 63 := by
    decide
  have hlongest : min (patient.retryPolicy.retryDelayMs.toNat * (1 + 1)) (UInt64.size - 1) =
      2 ^ 64 - 1 := by
    decide
  rw [hwait] at hsecond
  rw [hlongest] at hthird
  refine ⟨n, a, b, last, _, hp, htried.ended, ?_, ?_, ?_, rfl, rfl, rfl⟩ <;>
    rw [Prod.mk.injEq] <;> omega

end Session

end Dispatcher

end Webhook
