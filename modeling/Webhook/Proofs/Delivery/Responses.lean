import Webhook.Proofs.Delivery.Turns

/-!
# The responses to the attempts of a delivery

An attempt that comes to a response has its status (`Attempt.status?`), and a server has given that
response (`Stage.isAnswered_of_status?`). A report has the status of the last attempt
(`Retries.status_eq`), which need not be the latest one that there is
(`status?_eq_latestStatus?_iff`).
-/

namespace Webhook.Delivery

open Http

/-! ## Responses to attempts -/

/-- The status of the response that a result comes from; none where it comes from no response. -/
def responseStatus? : AttemptResult → Option Nat
  | .ok status => some status
  | .error reason => failureStatus reason

/-- The status of the response that an attempt got, if it got one. Redirects that it has followed do
not count. -/
def Attempt.status? (a : Attempt) : Option Nat := responseStatus? a.result

/-- The status of the latest response that attempts got, where the oldest attempt comes first. -/
def latestStatus? (attempts : List Attempt) : Option Nat :=
  (attempts.filterMap Attempt.status?).getLast?

/-- The latest status is that of the last attempt, or else the latest before it. -/
theorem latestStatus?_concat (attempts : List Attempt) (a : Attempt) :
    latestStatus? (attempts ++ [a]) = a.status?.or (latestStatus? attempts) := by
  unfold latestStatus?
  rw [List.filterMap_append, List.getLast?_append]
  cases h : a.status? <;> simp [h]

/-- There is no latest status exactly when no attempt got a response. -/
theorem latestStatus?_eq_none_iff {attempts : List Attempt} :
    latestStatus? attempts = none ↔ ∀ a ∈ attempts, a.status? = none := by
  rw [latestStatus?, List.getLast?_eq_none_iff, List.filterMap_eq_nil_iff]

/-! ## Where responses come from -/

/-- The last request gets a response of a status, which comes at a time. -/
def Stage.IsAnswered (answers : Answers) (s : Stage) (time status : Nat) : Prop :=
  ∃ delay location, answers s.sent = some (delay, .response status location) ∧
    time = s.lastTime + delay

/-- The result of a response has its status, be it a success or not. -/
theorem responseStatus?_resultOf (status : Nat) :
    responseStatus? (resultOf status) = some status := by
  unfold resultOf
  split <;> rfl

/-- A flight that comes to a response has ended with that response. -/
theorem exists_location_of_landed {flight : Flight} {reply : Reply} {result : AttemptResult}
    {status : Nat} (h : flight.receive reply = .landed result)
    (hs : responseStatus? result = some status) :
    ∃ location, reply = .response status location := by
  cases reply with
  | broken =>
    cases h
    cases hs
  | response code location =>
    -- a flight that ends with a status ends with the response that has it
    rcases flight.receive_response_cases code location with ⟨next, hr, -⟩ | ⟨detail, hr, -⟩ | hr
    · cases hr.symm.trans h
    · cases hr.symm.trans h
      cases hs
    · cases hr.symm.trans h
      rw [responseStatus?_resultOf, Option.some.injEq] at hs
      exact ⟨location, by rw [hs]⟩

/-- An attempt that cannot be sent comes to no response. -/
theorem responseStatus?_of_request {x : Delivery} {sender : Sender} {result : AttemptResult}
    (h : x.request sender = .error result) : responseStatus? result = none := by
  unfold request at h
  dsimp only at h
  split at h
  · cases h
    rfl
  · split at h <;> cases h
    rfl

/-- The move that ends an attempt with a response is that response. -/
theorem exists_location_of_result? {x : Delivery} {sender : Sender} {m : Move}
    {result : AttemptResult} {status : Nat} (h : x.result? sender m = some result)
    (hs : responseStatus? result = some status) :
    ∃ location, m = .reply (.response status location) := by
  -- an attempt that is not sent, and one that expires, gets no status
  unfold result? at h
  split at h
  · split at h <;> cases h
    next hr =>
      rw [responseStatus?_of_request hr] at hs
      cases hs
  · split at h
    · split at h <;> cases h
      next hl =>
        obtain ⟨location, rfl⟩ := exists_location_of_landed hl hs
        exact ⟨location, rfl⟩
    · cases h
  · cases h
    cases hs

/-- A reply that comes next is the one that is answered, at its time. -/
theorem Stage.of_next?_reply {s : Stage} {answers : Answers} {time : Nat} {reply : Reply}
    (h : s.next? answers = some (time, .reply reply)) :
    ∃ delay, answers s.sent = some (delay, reply) ∧ time = s.lastTime + delay := by
  unfold next? at h
  split at h
  · cases h
  · split at h
    next delay _ ha =>
      split at h <;> cases h
      exact ⟨delay, ha, rfl⟩
    · cases h
  · cases h

/-- Each status that an attempt got is that of a response, which came when the attempt ended. -/
theorem Stage.isAnswered_of_status? {sender : Sender} {answers : Answers} {envelope : Envelope}
    {endpoint : Endpoint} {n : Nat} {a : Attempt} {status : Nat}
    (ha : a ∈ (journal sender answers envelope endpoint n).ended)
    (hs : a.status? = some status) :
    ∃ k < n, (after sender answers envelope endpoint k).IsAnswered answers a.finish status := by
  -- along the stages, where an attempt is added to the journal by the move that ends it
  induction n with
  | zero => cases ha
  | succ n ih =>
    have hearlier : a ∈ (journal sender answers envelope endpoint n).ended →
        ∃ k < n + 1,
          (after sender answers envelope endpoint k).IsAnswered answers a.finish status := by
      intro ha
      obtain ⟨k, hk, hanswered⟩ := ih ha
      exact ⟨k, Nat.lt_succ_of_lt hk, hanswered⟩
    rw [journal] at ha
    split at ha
    · exact hearlier ha
    next time m hn =>
      rcases List.mem_append.1 ha with ha | ha
      · exact hearlier ha
      · -- the attempt ends with this move, which is then the response
        obtain ⟨result, hresult, rfl⟩ := List.mem_map.1 ha
        obtain ⟨location, rfl⟩ := exists_location_of_result? (Option.mem_toList.1 hresult) hs
        obtain ⟨delay, hanswer, rfl⟩ := of_next?_reply hn
        exact ⟨n, Nat.lt_succ_self n, delay, location, hanswer, rfl⟩

/-- The status of a reply to an attempt, if it is a response and comes in time. -/
def timelyStatus? (sender : Sender) : Option (Nat × Reply) → Option Nat
  | some (delay, .response status _) => if delay ≤ sender.timeout then some status else none
  | _ => none

/-- An attempt that is answered gets a status if the answer is a response and comes in time. -/
theorem responseStatus?_attemptOf (sender : Sender) (origin : Url)
    (answer : Option (Nat × Reply)) :
    responseStatus? (attemptOf sender origin answer).2 = timelyStatus? sender answer := by
  cases answer with
  | none => rfl
  | some answer =>
    obtain ⟨delay, reply⟩ := answer
    -- what comes after the time limit does not count, whatever it is
    by_cases h : delay ≤ sender.timeout
    · rw [attemptOf, if_pos h]
      cases reply with
      | response status location =>
        rw [timelyStatus?, if_pos h]
        exact responseStatus?_resultOf status
      | broken => rfl
    · rw [attemptOf, if_neg h]
      cases reply with
      | response status location =>
        rw [timelyStatus?, if_neg h]
        rfl
      | broken => rfl

/-- An attempt that is answered in turn gets a response if its answer is one and comes in time. -/
theorem Taken.status?_eq {sender : Sender} {origin : Url} {replies : Nat → Option (Nat × Reply)}
    {attempts : List Attempt} (h : Taken sender origin replies attempts) {k : Nat} {a : Attempt}
    (ha : attempts[k]? = some a) : a.status? = timelyStatus? sender (replies (k + 1)) := by
  rw [Attempt.status?, (h k a ha).2, responseStatus?_attemptOf]

/-! ## The status of the last attempt -/

/-- A report has the status of the response to the last attempt. -/
theorem Retries.status_eq {policy : RetryPolicy} {earlier : List Attempt} {last : Attempt}
    {report : Report} (h : Retries policy earlier last report) : report.status = last.status? := by
  unfold Attempt.status?
  cases hr : last.result with
  | ok status => exact ((h.ok_iff status).1 hr).2
  | error reason => exact ((h.error_iff reason).1 hr).2

/-- The status of the last attempt is the latest one if that attempt got a response, or if there
has been none. -/
theorem status?_eq_latestStatus?_iff (earlier : List Attempt) (last : Attempt) :
    last.status? = latestStatus? (earlier ++ [last]) ↔
      last.status?.isSome ∨ ∀ a ∈ earlier, a.status? = none := by
  rw [latestStatus?_concat, ← latestStatus?_eq_none_iff]
  cases last.status? with
  | none => simp [eq_comm]
  | some status => simp

end Webhook.Delivery
