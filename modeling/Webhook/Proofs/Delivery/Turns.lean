import Webhook.Proofs.Delivery.Retries

/-!
# Attempts that are answered in turn

Where each attempt has an answer of its own, which does not lead anywhere else, a delivery comes to
what these answers make of its attempts: each of them takes as long as its answer, or as long as it
may take, and comes to what the answer says (`Stage.taken_journal`). So the results of the attempts
can be any sequence.
-/

namespace Webhook.Delivery

open Http

variable {x y : Delivery} {sender : Sender} {now time : Nat} {m : Move}

/-! ## Answers -/

/-- Servers that answer the attempts of a delivery in turn, counted from 1 on. -/
def inTurn (replies : Nat → Option (Nat × Reply)) : Answers := fun sent => replies sent.length

/-- The reply does not lead anywhere else. -/
def Stays : Reply → Prop
  | .response _ location => location = none
  | .broken => True

/-- What a reply that does not lead anywhere else makes of an attempt. -/
def resultOfReply (origin : Url) : Reply → AttemptResult
  | .response status _ => resultOf status
  | .broken => sendingFailed origin

/-- How long an attempt takes that is answered so, and what it comes to. -/
def attemptOf (sender : Sender) (origin : Url) : Option (Nat × Reply) → Nat × AttemptResult
  | some (delay, reply) =>
    if delay ≤ sender.timeout then (delay, resultOfReply origin reply)
    else (sender.timeout, .error .timeout)
  | none => (sender.timeout, .error .timeout)

/-- A reply that is no redirect ends a flight. -/
theorem receive_of_stays (flight : Flight) {reply : Reply} (h : Stays reply) :
    flight.receive reply = .landed (resultOfReply flight.origin reply) := by
  cases reply with
  | broken => rfl
  | response status location =>
    obtain rfl : location = none := h
    simp only [Flight.receive, Flight.target?]
    cases redirected? status flight.request <;> rfl

/-! ## Attempts -/

/-- The attempts are those that the replies make. -/
def Taken (sender : Sender) (origin : Url) (replies : Nat → Option (Nat × Reply))
    (attempts : List Attempt) : Prop :=
  ∀ k a, attempts[k]? = some a →
    a.finish = a.start + (attemptOf sender origin (replies (k + 1))).1 ∧
      a.result = (attemptOf sender origin (replies (k + 1))).2

/-- Attempts stay answered in turn when the next one takes the next answer. -/
theorem Taken.concat {origin : Url} {replies : Nat → Option (Nat × Reply)}
    {attempts : List Attempt} (h : Taken sender origin replies attempts) {start : Nat}
    {duration : Nat} {result : AttemptResult}
    (he : attemptOf sender origin (replies (attempts.length + 1)) = (duration, result)) :
    Taken sender origin replies (attempts ++ [⟨start, start + duration, result⟩]) := by
  intro k a ha
  rcases getElem?_concat_eq_some_iff.1 ha with ha | ⟨rfl, rfl⟩
  · exact h k a ha
  · rw [he]
    exact ⟨rfl, rfl⟩

/-- A delivery sends one request in each attempt, and the attempts are those that the replies
make. -/
structure TakesTurns (sender : Sender) (r : Request) (replies : Nat → Option (Nat × Reply))
    (s : Stage) (j : Journal) : Prop where
  request : s.delivery.request sender = .ok r
  taken : Taken sender r.url replies j.ended
  due : ∀ time, s.delivery.phase = .due time → s.sent.length = j.ended.length
  flying : ∀ flight deadline, s.delivery.phase = .flying flight deadline →
    flight = Flight.start r ∧ deadline = j.started + sender.timeout ∧ s.lastTime = j.started ∧
      s.sent.length = j.ended.length + 1

/-- A reply that comes in time, or the deadline, ends the attempt as the replies make it end. -/
theorem TakesTurns.result {r : Request} {replies : Nat → Option (Nat × Reply)} {s : Stage}
    {j : Journal} (h : TakesTurns sender r replies s j)
    (hstay : ∀ k delay reply, replies k = some (delay, reply) → Stays reply)
    {flight : Flight} {deadline : Nat} (hp : s.delivery.phase = .flying flight deadline)
    (hn : s.next? (inTurn replies) = some (time, m)) :
    j.startedAfter time m = j.started ∧ ∃ duration result, time = j.started + duration ∧
      s.delivery.result? sender m = some result ∧
      attemptOf sender r.url (replies (j.ended.length + 1)) = (duration, result) := by
  obtain ⟨rfl, rfl, hlast, hlength⟩ := h.flying flight deadline hp
  simp only [Stage.next?, hp, inTurn, hlength, hlast] at hn
  -- the next answer comes in time, comes too late, or never comes
  split at hn
  next delay reply hreply =>
    split at hn <;> cases hn
    next hle =>
      have hle : delay ≤ sender.timeout := Nat.le_of_add_le_add_left hle
      refine ⟨rfl, delay, resultOfReply r.url reply, rfl, ?_, ?_⟩
      · simp only [result?, hp, receive_of_stays _ (hstay _ _ _ hreply)]
        rfl
      · simp only [attemptOf, hreply, if_pos hle]
    next hgt =>
      have hgt : ¬ delay ≤ sender.timeout := fun hle => hgt (Nat.add_le_add_left hle _)
      refine ⟨rfl, sender.timeout, _, rfl, rfl, ?_⟩
      simp only [attemptOf, hreply, if_neg hgt]
  next hnone =>
    cases hn
    refine ⟨rfl, sender.timeout, _, rfl, rfl, ?_⟩
    simp only [attemptOf, hnone]

/-- A delivery whose attempts are answered in turn goes on in this way with its next move. -/
theorem TakesTurns.move {r : Request} {replies : Nat → Option (Nat × Reply)} {s : Stage}
    {j : Journal} (h : TakesTurns sender r replies s j)
    (hstay : ∀ k delay reply, replies k = some (delay, reply) → Stays reply)
    (hn : s.next? (inTurn replies) = some (time, m))
    (hm : s.delivery.move? sender time m = some y) :
    TakesTurns sender r replies (s.moved y time) (j.add sender s.delivery time m) := by
  obtain ⟨hendpoint, henvelope⟩ := move?_frame hm
  have hrequest : y.request sender = .ok r := by
    rw [← h.request]
    simp only [Delivery.request, hendpoint, henvelope]
  cases hp : s.delivery.phase with
  | due due =>
    simp only [Stage.next?, hp] at hn
    cases hn
    -- an attempt starts, and one more request has been sent than attempts have ended
    have hnone : s.delivery.result? sender .send = none := by simp only [result?, h.request]
    have hy : y = s.delivery.send sender time := by
      simp only [move?, hp, Nat.le_refl, ↓reduceIte, Option.some.injEq] at hm
      exact hm.symm
    have hphase : y.phase = .flying (Flight.start r) (time + sender.timeout) := by
      rw [hy]
      simp only [send, h.request]
    have hended : (j.add sender s.delivery time .send).ended = j.ended := by
      simp [Journal.add, hnone]
    refine ⟨hrequest, hended ▸ h.taken, ?_, ?_⟩
    · intro later hdue
      cases hphase.symm.trans hdue
    · intro flight deadline hflying
      cases hphase.symm.trans hflying
      refine ⟨rfl, rfl, Stage.lastTime_moved hphase, ?_⟩
      simp [hended, Stage.moved, requestAt, hphase, h.due time hp]
  | flying flight deadline =>
    obtain ⟨hstarted, duration, result, rfl, hsome, hattempt⟩ := h.result hstay hp hn
    obtain ⟨-, -, -, hlength⟩ := h.flying flight deadline hp
    -- the attempt ends with its answer, and nothing is sent
    have hended : (j.add sender s.delivery (j.started + duration) m).ended =
        j.ended ++ [⟨j.started, j.started + duration, result⟩] := by
      simp [Journal.add, hsome, hstarted]
    rcases result?_cases hm with ⟨hnone, -⟩ | ⟨result', -, rfl⟩
    · rw [hsome] at hnone
      cases hnone
    · refine ⟨hrequest, hended ▸ h.taken.concat hattempt, ?_, ?_⟩
      · intro due hdue
        have hdue : (s.delivery.conclude (j.started + duration) result').phase = .due due := hdue
        simp [hended, Stage.moved, requestAt, hdue, hlength]
      · intro next limit hflying
        rcases conclude_cases s.delivery (j.started + duration) result' with ⟨_, -, hc⟩ |
          ⟨_, -, -, hc⟩ | ⟨_, -, -, hc⟩ <;> rw [hc] at hflying <;> cases hflying
  | settled report =>
    simp only [Stage.next?, hp] at hn
    cases hn

/-- The attempts of a delivery that is answered in turn are those that the replies make. -/
theorem Stage.taken_journal {replies : Nat → Option (Nat × Reply)} {envelope : Envelope}
    {endpoint : Endpoint} {r : Request}
    (hr : (Delivery.start 0 envelope endpoint).request sender = .ok r)
    (hstay : ∀ k delay reply, replies k = some (delay, reply) → Stays reply) (n : Nat) :
    Taken sender r.url replies (journal sender (inTurn replies) envelope endpoint n).ended := by
  -- by induction along the journal, with the place in the turns beside it
  refine (journal_induction (p := TakesTurns sender r replies) ?_ ?_ n).taken
  · refine ⟨hr, ?_, ?_, ?_⟩
    · intro k a ha
      cases ha
    · intro time hp
      rfl
    · intro flight deadline hp
      cases hp
  · exact fun _ _ _ _ _ h hn hm => h.move hstay hn hm

end Webhook.Delivery
