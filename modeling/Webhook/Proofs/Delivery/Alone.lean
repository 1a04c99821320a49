import Webhook.Proofs.Delivery.Requests

/-!
# A delivery by itself

What a delivery does when the servers that it meets are given. `Http.Answers` says what they answer
to the requests that the delivery has sent so far, and how long they take. The next move and its
time are then determined (`Stage.next?`), and so is the whole delivery, move by move
(`Stage.after`). All times count from the start of the delivery; it does not matter when that is
(`move?_since`).

Each move leaves less to do (`work_lt_of_move?`), so that a delivery comes to its end, and when it
has, nothing more happens (`Stage.after_of_settled`).
-/

namespace Webhook

/-- What is answered to the requests that a delivery has sent, oldest first and with their times:
the reply to the last of them and how long it takes, or nothing where it never comes. -/
abbrev Http.Answers := List (Nat × Http.Request) → Option (Nat × Http.Reply)

deriving instance DecidableEq for Delivery.Move

namespace Delivery

open Http

variable {x y : Delivery} {sender : Sender} {now start time : Nat} {m : Move}

/-! ## Times from the start -/

/-- Where a delivery stands, with times that count from a moment. -/
def Phase.since (start : Nat) : Phase → Phase
  | .due time => .due (time - start)
  | .flying flight deadline => .flying flight (deadline - start)
  | .settled report => .settled report

/-- A delivery with times that count from a moment. -/
def since (start : Nat) (x : Delivery) : Delivery := { x with phase := x.phase.since start }

/-- What comes next comes at the time from the start. -/
theorem nextTime?_since (x : Delivery) (start : Nat) :
    (x.since start).nextTime? = x.nextTime?.map (· - start) := by
  cases hp : x.phase <;> simp [nextTime?, since, Phase.since, hp]

/-- An attempt that ends does the same with times from the start. -/
theorem since_conclude (hs : start ≤ now) (x : Delivery) (result : AttemptResult) :
    (x.conclude now result).since start = (x.since start).conclude (now - start) result := by
  cases result with
  | ok status => rfl
  | error reason =>
    by_cases hlt : x.attempt < x.endpoint.retryPolicy.attempts
    · simp only [conclude, since, hlt, ↓reduceIte, Phase.since, Nat.sub_add_comm hs]
    · simp only [conclude, since, hlt, ↓reduceIte]
      rfl

/-- An attempt that starts does the same with times from the start. -/
theorem since_send (hs : start ≤ now) (x : Delivery) (sender : Sender) :
    (x.send sender now).since start = (x.since start).send sender (now - start) := by
  have hrequest : (x.since start).request sender = x.request sender := rfl
  unfold send
  rw [hrequest]
  cases x.request sender with
  | ok r => simp only [since, Phase.since, Nat.sub_add_comm hs]
  | error result => exact since_conclude hs x result

/-- A reply does the same with times from the start. -/
theorem since_receive (hs : start ≤ now) (x : Delivery) (flight : Flight) (deadline : Nat)
    (reply : Reply) : (x.receive now flight deadline reply).since start =
      (x.since start).receive (now - start) flight (deadline - start) reply := by
  unfold receive
  cases flight.receive reply with
  | onward next => rfl
  | landed result => exact since_conclude hs x result

/-- After an attempt has ended, nothing is due before that moment. -/
theorem nextTime?_conclude {result : AttemptResult}
    (h : (x.conclude now result).nextTime? = some time) : now ≤ time := by
  rcases conclude_cases x now result with ⟨_, -, hc⟩ | ⟨_, -, -, hc⟩ | ⟨_, -, -, hc⟩
  · rw [hc] at h
    cases h
  · rw [hc] at h
    cases h
    exact Nat.le_add_right ..
  · rw [hc] at h
    cases h

/-- What comes by itself after a move comes later, or was to come at that time before. -/
theorem nextTime?_of_move? (h : x.move? sender now m = some y) (hy : y.nextTime? = some time) :
    now ≤ time ∨ x.nextTime? = some time := by
  -- a redirect leaves the deadline as it is, and all else sets a time from now on
  rcases move?_cases h with ⟨due, -, hp, -, rfl⟩ | ⟨flight, deadline, reply, -, hp, rfl⟩ |
    ⟨flight, deadline, -, hp, -, rfl⟩
  · refine .inl ?_
    unfold send at hy
    split at hy
    · cases hy
      exact Nat.le_add_right ..
    · exact nextTime?_conclude hy
  · unfold receive at hy
    split at hy
    · cases hy
      exact .inr (by simp only [nextTime?, hp])
    · exact .inl (nextTime?_conclude hy)
  · exact .inl (nextTime?_conclude hy)

/-- A move does the same to the delivery with times from the start, at the time from the start. -/
theorem move?_since (hs : start ≤ now) (hx : ∀ time ∈ x.nextTime?, start ≤ time) (m : Move) :
    (x.since start).move? sender (now - start) m = (x.move? sender now m).map (since start) := by
  -- a time after the start has come when it has come counted from the start
  have hcome : ∀ time ∈ x.nextTime?, (time - start ≤ now - start) = (time ≤ now) := by
    intro time htime
    have hle := hx time htime
    simp only [eq_iff_iff]
    omega
  have hphase : (x.since start).phase = x.phase.since start := rfl
  cases hp : x.phase with
  | due time =>
    rw [hp, Phase.since] at hphase
    cases m with
    | send =>
      simp only [move?, hp, hphase, hcome time (by simp [nextTime?, hp])]
      split
      · rw [Option.map_some, since_send hs]
      · rfl
    | _ => simp only [move?, hp, hphase, Option.map_none]
  | flying flight deadline =>
    rw [hp, Phase.since] at hphase
    cases m with
    | send => simp only [move?, hp, hphase, Option.map_none]
    | reply reply => simp only [move?, hp, hphase, Option.map_some, since_receive hs]
    | expire =>
      simp only [move?, hp, hphase, hcome deadline (by simp [nextTime?, hp])]
      split
      · rw [Option.map_some, expire, expire, since_conclude hs]
      · rfl
  | settled report =>
    rw [hp, Phase.since] at hphase
    cases m <;> simp only [move?, hp, hphase, Option.map_none]

/-! ## What is left to do -/

/-- A conclusion leaves at most the attempts that come later. -/
theorem work_conclude_le (x : Delivery) (now : Nat) (result : AttemptResult) :
    (x.conclude now result).work ≤
      (x.endpoint.retryPolicy.attempts - x.attempt) * attemptWork := by
  rcases conclude_cases x now result with ⟨_, -, hc⟩ | ⟨_, -, hlt, hc⟩ | ⟨_, -, -, hc⟩
  · rw [hc]
    exact Nat.zero_le _
  · rw [hc]
    -- the next attempt is one of those that come later
    have hsub : x.endpoint.retryPolicy.attempts - x.attempt =
        x.endpoint.retryPolicy.attempts - (x.attempt + 1) + 1 := by omega
    refine Nat.le_of_eq ?_
    simp only [work]
    rw [hsub, Nat.add_mul, Nat.one_mul]
  · rw [hc]
    exact Nat.zero_le _

/-- Redirects are followed up to the greatest number only. -/
theorem redirects_lt_of_onward {f next : Flight} {reply : Reply}
    (h : f.receive reply = .onward next) :
    f.redirects < maxRedirects ∧ next.redirects = f.redirects + 1 := by
  obtain ⟨status, r, url, -, -, hnext⟩ := Flight.of_onward h
  refine ⟨?_, hnext⟩
  unfold Flight.receive at h
  split at h
  · cases h
  · split at h
    · -- the greatest number of redirects ends the flight
      unfold Flight.follow at h
      split at h
      · cases h
      next hle => exact Nat.lt_of_not_le hle
    · cases h
    · cases h

/-- A move leaves less to do. -/
theorem work_lt_of_move? (h : x.move? sender now m = some y) : y.work < x.work := by
  -- an attempt that ends, however it does, leaves the attempts that come later
  have hend : ∀ result, (x.conclude now result).work ≤
      (x.endpoint.retryPolicy.attempts - x.attempt) * attemptWork := work_conclude_le x now
  rcases move?_cases h with ⟨time, -, hp, -, rfl⟩ | ⟨flight, deadline, reply, -, hp, rfl⟩ |
    ⟨flight, deadline, -, hp, -, rfl⟩
  · have hx : x.work = (x.endpoint.retryPolicy.attempts - x.attempt) * attemptWork + attemptWork :=
      by simp only [work, hp]
    unfold send
    split
    · simp only [work, hp, Flight.start, attemptWork]
      omega
    · have hpos : 0 < attemptWork := Nat.succ_pos _
      exact Nat.lt_of_le_of_lt (hend _) (hx ▸ Nat.lt_add_of_pos_right hpos)
  · unfold receive
    split
    · next next hf =>
      obtain ⟨hlt, hnext⟩ := redirects_lt_of_onward hf
      simp only [work, hp]
      omega
    · refine Nat.lt_of_le_of_lt (hend _) ?_
      simp only [work, hp]
      omega
  · refine Nat.lt_of_le_of_lt (hend _) ?_
    simp only [work, hp]
    omega

/-! ## Stages -/

/-- A delivery with times from its start, and the requests that it has sent, oldest first. -/
structure Stage where
  /-- The delivery. -/
  delivery : Delivery
  /-- The requests with their times. -/
  sent : List (Nat × Request)

/-- The request that a delivery waits for the reply to, with the time. -/
def requestAt (x : Delivery) (time : Nat) : List (Nat × Request) :=
  match x.phase with
  | .flying flight _ => [(time, flight.request)]
  | _ => []

namespace Stage

variable {s : Stage} {answers : Answers} {envelope : Envelope} {endpoint : Endpoint} {n k : Nat}

/-- The time of the last request. -/
def lastTime (s : Stage) : Nat := (s.sent.getLast?.map Prod.fst).getD 0

/-- The next move and its time: an attempt starts when it is due, and a request gets its reply when
that comes, unless the deadline comes before. -/
def next? (answers : Answers) (s : Stage) : Option (Nat × Move) :=
  match s.delivery.phase with
  | .due time => some (time, .send)
  | .flying _ deadline =>
    match answers s.sent with
    | some (delay, reply) =>
      if s.lastTime + delay ≤ deadline then some (s.lastTime + delay, .reply reply)
      else some (deadline, .expire)
    | none => some (deadline, .expire)
  | .settled _ => none

/-- A delivery after a move at a time. -/
def moved (s : Stage) (y : Delivery) (time : Nat) : Stage := ⟨y, s.sent ++ y.requestAt time⟩

/-- The stage after the next move; at the end, nothing more happens. -/
def next (sender : Sender) (answers : Answers) (s : Stage) : Stage :=
  match s.next? answers with
  | none => s
  | some (time, m) =>
    match s.delivery.move? sender time m with
    | none => s
    | some y => s.moved y time

/-- The stage after so many moves of a delivery from its start. -/
def after (sender : Sender) (answers : Answers) (envelope : Envelope) (endpoint : Endpoint) :
    Nat → Stage
  | 0 => ⟨Delivery.start 0 envelope endpoint, []⟩
  | n + 1 => (after sender answers envelope endpoint n).next sender answers

/-- The stage after the next move is that of the delivery which it makes. -/
theorem next_eq_moved (hn : s.next? answers = some (time, m))
    (hm : s.delivery.move? sender time m = some y) : s.next sender answers = s.moved y time := by
  simp only [next, hn, hm]

/-- The next move is possible at its time. -/
theorem exists_move? (hn : s.next? answers = some (time, m)) (sender : Sender) :
    ∃ y, s.delivery.move? sender time m = some y := by
  -- an attempt is due when it starts, and a request can be answered at any time
  unfold next? at hn
  split at hn
  next due hp =>
    cases hn
    exact ⟨_, by simp only [move?, hp, Nat.le_refl, ↓reduceIte]; rfl⟩
  next flight deadline hp =>
    have hexpire : ∃ y, s.delivery.move? sender deadline .expire = some y :=
      ⟨_, by simp only [move?, hp, Nat.le_refl, ↓reduceIte]; rfl⟩
    split at hn
    · split at hn <;> cases hn
      · exact ⟨_, by simp only [move?, hp]; rfl⟩
      · exact hexpire
    · cases hn
      exact hexpire
  · cases hn

/-- A reply that comes counts up to the deadline, and the deadline ends the wait for one. -/
theorem le_of_next? {limit : Nat} (hn : s.next? answers = some (time, m))
    (hl : s.delivery.nextTime? = some limit) : time ≤ limit := by
  unfold next? at hn
  unfold nextTime? at hl
  -- a reply counts only up to the deadline
  split at hn
  next due hp =>
    simp only [hp] at hl
    cases hn
    cases hl
    exact Nat.le_refl _
  next flight deadline hp =>
    simp only [hp] at hl
    cases hl
    split at hn
    · split at hn <;> cases hn
      next hle => exact hle
      · exact Nat.le_refl _
    · cases hn
      exact Nat.le_refl _
  · cases hn

/-- A move that sends a request makes its time the last one. -/
theorem lastTime_moved {flight : Flight} {deadline : Nat} (hp : y.phase = .flying flight deadline) :
    (s.moved y time).lastTime = time := by
  simp [lastTime, moved, requestAt, hp]

/-- The moves come one after another. -/
theorem le_of_next?_moved {later : Nat} {m' : Move} (hn : s.next? answers = some (time, m))
    (hm : s.delivery.move? sender time m = some y)
    (hn' : (s.moved y time).next? answers = some (later, m')) : time ≤ later := by
  -- what the move leaves is not due before the move
  have hlimit : ∀ limit, y.nextTime? = some limit → time ≤ limit := by
    intro limit hl
    rcases nextTime?_of_move? hm hl with hle | hx
    · exact hle
    · exact le_of_next? hn hx
  unfold next? at hn'
  split at hn'
  next due hp =>
    cases hn'
    exact hlimit later (by simp only [nextTime?, show y.phase = _ from hp])
  next flight deadline hp =>
    have hp : y.phase = .flying flight deadline := hp
    have hdeadline := hlimit deadline (by simp only [nextTime?, hp])
    rw [lastTime_moved hp] at hn'
    split at hn'
    · split at hn' <;> cases hn'
      · exact Nat.le_add_right ..
      · exact hdeadline
    · cases hn'
      exact hdeadline
  · cases hn'

/-- Only at its end has a delivery no next move. -/
theorem exists_next? (hp : ∀ report, s.delivery.phase ≠ .settled report) (answers : Answers) :
    ∃ time m, s.next? answers = some (time, m) := by
  unfold next?
  split
  · exact ⟨_, _, rfl⟩
  · split
    · split <;> exact ⟨_, _, rfl⟩
    · exact ⟨_, _, rfl⟩
  next report hs => exact absurd hs (hp report)

/-- The next move adds to the requests. -/
theorem sent_prefix_next (s : Stage) : s.sent <+: (s.next sender answers).sent := by
  unfold next
  split
  · exact List.prefix_rfl
  · split
    · exact List.prefix_rfl
    · exact List.prefix_append _ _

/-- Requests are only added. -/
theorem sent_prefix_after (hk : n ≤ k) :
    (after sender answers envelope endpoint n).sent <+:
      (after sender answers envelope endpoint k).sent := by
  induction hk with
  | refl => exact List.prefix_rfl
  | step _ ih => exact ih.trans (sent_prefix_next _)

/-- At the end of a delivery nothing more happens. -/
theorem after_of_settled {report : Report} (hk : n ≤ k)
    (hp : (after sender answers envelope endpoint n).delivery.phase = .settled report) :
    after sender answers envelope endpoint k = after sender answers envelope endpoint n := by
  induction hk with
  | refl => rfl
  | step _ ih =>
    rw [after, ih]
    simp only [next, next?, hp]

/-- A delivery comes to one end only. -/
theorem eq_of_settled {report report' : Report}
    (hn : (after sender answers envelope endpoint n).delivery.phase = .settled report)
    (hk : (after sender answers envelope endpoint k).delivery.phase = .settled report') :
    after sender answers envelope endpoint k = after sender answers envelope endpoint n := by
  rcases Nat.le_total n k with hle | hle
  · exact after_of_settled hle hn
  · exact (after_of_settled hle hk).symm

end Stage

end Delivery

end Webhook
