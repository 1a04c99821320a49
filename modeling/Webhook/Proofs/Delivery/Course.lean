import Webhook.Delivery.Basic

/-!
# The course of a delivery

A delivery moves when its next attempt starts, when a reply comes, and when it has waited for a
reply in vain; servers decide which. A `Course` is a sequence of moves, with the exchanges that it
has come to: a list for each attempt, the latest attempt first.

What a move does is said once (`move?_cases`). What an attempt comes to enters a delivery only
through `conclude`, so that its three outcomes (`conclude_cases`) are all that later proofs need to
know of it.
-/

namespace Webhook

/-- What a report is about: the event, its type and the endpoint. -/
def Report.subject (r : Report) : EventId × EventType × EndpointId :=
  (r.eventId, r.eventType, r.endpointId)

namespace Delivery

/-- What the report of a delivery is about. -/
def subject (x : Delivery) : EventId × EventType × EndpointId :=
  (x.envelope.id, x.envelope.eventType, x.endpoint.id)

/-- A move of a delivery. -/
inductive Move where
  /-- The attempt that is due starts. -/
  | send
  /-- A reply comes. -/
  | reply (reply : Http.Reply)
  /-- The time for a reply is over. -/
  | expire

/-- The delivery after a move at a time, where the move is possible. -/
def move? (sender : Sender) (now : Nat) (x : Delivery) : Move → Option Delivery
  | .send =>
    match x.phase with
    | .due time => if time ≤ now then some (x.send sender now) else none
    | _ => none
  | .reply reply =>
    match x.phase with
    | .flying flight deadline => some (x.receive now flight deadline reply)
    | _ => none
  | .expire =>
    match x.phase with
    | .flying _ deadline => if deadline ≤ now then some (x.expire now) else none
    | _ => none

/-! ## Conclusions -/

/-- The status that the report of a failure has. -/
def failureStatus : Http.FailureReason → Option Nat
  | .status code => some code
  | _ => none

/-- An attempt ends a delivery with a success, leads to a wait for the next attempt, or ends the
delivery with a failure. -/
theorem conclude_cases (x : Delivery) (now : Nat) (result : Http.AttemptResult) :
    (∃ status, result = .ok status ∧
      x.conclude now result =
        { x with phase := .settled (x.report .delivered (some status)) }) ∨
    (∃ reason, result = .error reason ∧ x.attempt < x.endpoint.retryPolicy.attempts ∧
      x.conclude now result = { x with
        attempt := x.attempt + 1
        phase := .due (now + x.endpoint.retryPolicy.delayAfter x.attempt) }) ∨
    (∃ reason, result = .error reason ∧ x.endpoint.retryPolicy.attempts ≤ x.attempt ∧
      x.conclude now result =
        { x with phase := .settled (x.report (.failed reason) (failureStatus reason)) }) := by
  cases result with
  | ok status => exact .inl ⟨status, rfl, rfl⟩
  | error reason =>
    -- a failure is followed by a further attempt if there is one
    by_cases h : x.attempt < x.endpoint.retryPolicy.attempts
    · exact .inr (.inl ⟨reason, rfl, h, by simp only [conclude, if_pos h]⟩)
    · refine .inr (.inr ⟨reason, rfl, Nat.le_of_not_lt h, ?_⟩)
      simp only [conclude, if_neg h]
      cases reason <;> rfl

/-- What a move does, and where the delivery stands before it. -/
theorem move?_cases {sender : Sender} {now : Nat} {x y : Delivery} {m : Move}
    (h : x.move? sender now m = some y) :
    (∃ time, m = .send ∧ x.phase = .due time ∧ time ≤ now ∧ y = x.send sender now) ∨
    (∃ flight deadline reply, m = .reply reply ∧ x.phase = .flying flight deadline ∧
      y = x.receive now flight deadline reply) ∨
    (∃ flight deadline, m = .expire ∧ x.phase = .flying flight deadline ∧ deadline ≤ now ∧
      y = x.expire now) := by
  -- each move is possible in one phase only, and two of them only when their time has come
  cases m with
  | send =>
    simp only [move?] at h
    split at h
    next time hp =>
      split at h
      next ht =>
        cases h
        exact .inl ⟨time, rfl, hp, ht, rfl⟩
      · cases h
    · cases h
  | reply reply =>
    simp only [move?] at h
    split at h
    next flight deadline hp =>
      cases h
      exact .inr (.inl ⟨flight, deadline, reply, rfl, hp, rfl⟩)
    · cases h
  | expire =>
    simp only [move?] at h
    split at h
    next flight deadline hp =>
      split at h
      next ht =>
        cases h
        exact .inr (.inr ⟨flight, deadline, rfl, hp, ht, rfl⟩)
      · cases h
    · cases h

/-- A move leaves a request under way, or concludes the attempt. -/
theorem eq_of_move? {sender : Sender} {now : Nat} {x y : Delivery} {m : Move}
    (h : x.move? sender now m = some y) :
    (∃ flight deadline, y = { x with phase := .flying flight deadline }) ∨
      ∃ result, y = x.conclude now result := by
  -- an attempt is under way after the move, or it has ended with it
  rcases move?_cases h with ⟨time, -, -, -, rfl⟩ | ⟨flight, deadline, reply, -, -, rfl⟩ |
    ⟨flight, deadline, -, -, -, rfl⟩
  · unfold send
    split
    · exact .inl ⟨_, _, rfl⟩
    · exact .inr ⟨_, rfl⟩
  · unfold receive
    split
    · exact .inl ⟨_, _, rfl⟩
    · exact .inr ⟨_, rfl⟩
  · exact .inr ⟨_, rfl⟩

/-- A move leaves the endpoint and the envelope of a delivery alone. -/
theorem move?_frame {sender : Sender} {now : Nat} {x y : Delivery} {m : Move}
    (h : x.move? sender now m = some y) : y.endpoint = x.endpoint ∧ y.envelope = x.envelope := by
  rcases eq_of_move? h with ⟨flight, deadline, rfl⟩ | ⟨result, rfl⟩
  · exact ⟨rfl, rfl⟩
  · rcases conclude_cases x now result with ⟨_, -, hc⟩ | ⟨_, -, -, hc⟩ | ⟨_, -, -, hc⟩ <;>
      rw [hc] <;> exact ⟨rfl, rfl⟩

/-- A delivery that a move ends has a report on itself. -/
theorem subject_of_move? {sender : Sender} {now : Nat} {x y : Delivery} {m : Move}
    (h : x.move? sender now m = some y) {r : Report} (hr : y.phase = .settled r) :
    r.subject = y.subject := by
  rcases eq_of_move? h with ⟨flight, deadline, rfl⟩ | ⟨result, rfl⟩
  · cases hr
  · rcases conclude_cases x now result with ⟨_, -, hc⟩ | ⟨_, -, -, hc⟩ | ⟨_, -, -, hc⟩ <;>
      rw [hc] at hr ⊢ <;> cases hr <;> rfl

/-! ## Courses -/

/-- A request, and the status of the response to it. -/
structure Exchange where
  /-- The request. -/
  request : Http.Request
  /-- The status of the response. -/
  status : Nat

/-- The exchanges of a delivery after a move. -/
def logAfter (x : Delivery) (log : List (List Exchange)) : Move → List (List Exchange)
  | .send => [] :: log
  | .reply (.response status _) =>
    match x.phase, log with
    | .flying flight _, attempt :: earlier => (attempt ++ [⟨flight.request, status⟩]) :: earlier
    | _, _ => log
  | .reply .broken => log
  | .expire => log

/-- A delivery moves, at any times and with any replies, and has these exchanges. -/
inductive Course (sender : Sender) (first : Delivery) :
    Delivery → List (List Exchange) → Prop where
  | start : Course sender first first []
  | move {x y : Delivery} {log : List (List Exchange)} (now : Nat) (m : Move)
    (hc : Course sender first x log) (hm : x.move? sender now m = some y) :
    Course sender first y (logAfter x log m)

/-- A course leaves the endpoint and the envelope alone. -/
theorem Course.frame {sender : Sender} {first x : Delivery} {log : List (List Exchange)}
    (hc : Course sender first x log) :
    x.endpoint = first.endpoint ∧ x.envelope = first.envelope := by
  induction hc with
  | start => exact ⟨rfl, rfl⟩
  | move now m hc hm ih =>
    obtain ⟨he, hv⟩ := move?_frame hm
    exact ⟨he.trans ih.1, hv.trans ih.2⟩

/-- The delivery and its exchanges after moves at these times, where all of them are possible. -/
def follow? (sender : Sender) :
    List (Nat × Move) → Delivery → List (List Exchange) → Option (Delivery × List (List Exchange))
  | [], x, log => some (x, log)
  | (now, m) :: rest, x, log => do follow? sender rest (← x.move? sender now m) (logAfter x log m)

/-- A course goes on with the moves that are possible. -/
theorem Course.follow {sender : Sender} {first x y : Delivery} {log log' : List (List Exchange)}
    (hc : Course sender first x log) {moves : List (Nat × Move)}
    (h : follow? sender moves x log = some (y, log')) : Course sender first y log' := by
  induction moves generalizing x log with
  | nil =>
    cases h
    exact hc
  | cons move rest ih =>
    obtain ⟨now, m⟩ := move
    simp only [follow?, Option.bind_eq_bind, Option.bind_eq_some_iff] at h
    obtain ⟨next, hm, hn⟩ := h
    exact ih (hc.move now m hm) hn

end Delivery

/-! ## A sample -/

/-- An envelope of the first moment of a year. -/
def sampleEnvelope (id : String) : Envelope :=
  Envelope.new ⟨id⟩
    ⟨⟨2026, 1, 1, by decide, by decide⟩, 0, 0, 0, by decide, by decide, by decide⟩
    .groupCreated Json.Object.empty none

end Webhook
