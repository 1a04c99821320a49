import Webhook.Proofs.Delivery.Alone

/-!
# How often a delivery is tried, and when

The moves of a delivery by itself make up its attempts: one starts with a request, and ends with the
move that concludes it. A `Journal` has the attempts that have ended. What a policy says of them
and of the report is `Retries`: how many there are, what they come to, and how long it is from
the end of one to the start of the next. It is kept up by each move (`Tried.move`), so that it holds
at the end, which a delivery always comes to (`Stage.exists_settled`).
-/

namespace Webhook.Delivery

open Http

variable {x y : Delivery} {sender : Sender} {now time : Nat} {m : Move}

/-! ## Results of attempts -/

/-- What the attempt comes to that a move ends; nothing, if the move leaves it under way. -/
def result? (sender : Sender) (x : Delivery) : Move → Option AttemptResult
  | .send =>
    match x.request sender with
    | .ok _ => none
    | .error result => some result
  | .reply reply =>
    match x.phase with
    | .flying flight _ =>
      match flight.receive reply with
      | .onward _ => none
      | .landed result => some result
    | _ => none
  | .expire => some (.error .timeout)

/-- A move leaves an attempt under way, or concludes it with what it has come to. -/
theorem result?_cases (h : x.move? sender now m = some y) :
    (x.result? sender m = none ∧
      ∃ flight deadline, y = { x with phase := .flying flight deadline }) ∨
    ∃ result, x.result? sender m = some result ∧ y = x.conclude now result := by
  -- a move starts an attempt, goes on with one or ends one
  rcases move?_cases h with ⟨time, rfl, -, -, rfl⟩ | ⟨flight, deadline, reply, rfl, hp, rfl⟩ |
    ⟨flight, deadline, rfl, -, -, rfl⟩
  · unfold send result?
    cases x.request sender with
    | ok r => exact .inl ⟨rfl, _, _, rfl⟩
    | error result => exact .inr ⟨result, rfl, rfl⟩
  · simp only [receive, result?, hp]
    cases flight.receive reply with
    | onward next => exact .inl ⟨rfl, _, _, rfl⟩
    | landed result => exact .inr ⟨result, rfl, rfl⟩
  · exact .inr ⟨.error .timeout, rfl, rfl⟩

/-- A success has the status of a success, and a failure by its status has another one. -/
def IsProper : AttemptResult → Prop
  | .ok status => isSuccess status = true
  | .error (.status code) => isSuccess code = false
  | .error _ => True

/-- The result of a response is a proper one. -/
theorem isProper_resultOf (status : Nat) : IsProper (resultOf status) := by
  unfold resultOf
  cases h : isSuccess status with
  | true => exact h
  | false => exact h

/-- A flight lands with a proper result. -/
theorem isProper_of_landed {flight : Flight} {reply : Reply} {result : AttemptResult}
    (h : flight.receive reply = .landed result) : IsProper result := by
  -- only the status of a response can be a success, and only one from 200 to 299
  unfold Flight.receive at h
  split at h
  · cases h
    trivial
  · split at h
    · unfold Flight.follow at h
      split at h <;> cases h
      trivial
    · cases h
      trivial
    · cases h
      exact isProper_resultOf _

/-- An attempt whose request cannot be made comes to a proper result. -/
theorem isProper_of_request {result : AttemptResult} (h : x.request sender = .error result) :
    IsProper result := by
  unfold request at h
  dsimp only at h
  split at h
  · cases h
    trivial
  · split at h <;> cases h
    trivial

/-- A move that ends an attempt ends it with a proper result. -/
theorem isProper_of_result? {result : AttemptResult} (h : x.result? sender m = some result) :
    IsProper result := by
  unfold result? at h
  split at h
  · split at h <;> cases h
    next hr => exact isProper_of_request hr
  · split at h
    · split at h <;> cases h
      next hl => exact isProper_of_landed hl
    · cases h
  · cases h
    trivial

/-! ## Attempts -/

/-- An attempt that has ended. -/
structure Attempt where
  /-- The time at which it started. -/
  start : Nat
  /-- The time at which it ended. -/
  finish : Nat
  /-- What it came to. -/
  result : AttemptResult
  deriving DecidableEq

/-- Attempts start one after another, the first one at the start, and each later one when the one
before it has ended and the wait after that is over. -/
structure Spaced (policy : RetryPolicy) (attempts : List Attempt) : Prop where
  first : ∀ a, attempts[0]? = some a → a.start = 0
  next : ∀ k a b, attempts[k]? = some a → attempts[k + 1]? = some b →
    b.start = a.finish + min (policy.retryDelayMs.toNat * (k + 1)) (UInt64.size - 1)

/-- The time at which the attempt after these is to start. -/
def nextStart (policy : RetryPolicy) (attempts : List Attempt) : Nat :=
  match attempts.getLast? with
  | none => 0
  | some a => a.finish + policy.delayAfter attempts.length

/-- What is found in a list with one more item is found in the list, or is that item. -/
theorem getElem?_concat_eq_some_iff {α : Type} {l : List α} {a b : α} {k : Nat} :
    (l ++ [a])[k]? = some b ↔ l[k]? = some b ∨ k = l.length ∧ b = a := by
  rcases Nat.lt_trichotomy k l.length with hlt | rfl | hgt
  · rw [List.getElem?_append_left hlt]
    simp [Nat.ne_of_lt hlt]
  · simp [eq_comm]
  · rw [List.getElem?_eq_none (by simp; omega), List.getElem?_eq_none (by omega)]
    simp [Nat.ne_of_gt hgt]

/-- Attempts stay spaced when the next one starts at its time. -/
theorem Spaced.concat {policy : RetryPolicy} {attempts : List Attempt} {a : Attempt}
    (h : Spaced policy attempts) (ha : a.start = nextStart policy attempts) :
    Spaced policy (attempts ++ [a]) := by
  constructor
  · -- the first attempt is the new one only if there was none
    intro b hb
    cases attempts with
    | nil =>
      cases hb
      exact ha
    | cons first rest => exact h.first b hb
  · intro k b c hb hc
    rw [getElem?_concat_eq_some_iff] at hb hc
    rcases hc with hc | ⟨hlength, rfl⟩
    · have hlt : k + 1 < attempts.length := (List.getElem?_eq_some_iff.1 hc).1
      exact h.next k b c (hb.resolve_right fun hk => by omega) hc
    · -- the new attempt follows the last one of those before
      have hb : attempts[k]? = some b := hb.resolve_right fun hk => by omega
      have hlast : attempts.getLast? = some b := by
        rw [List.getLast?_eq_getElem?, ← hlength, Nat.add_sub_cancel, hb]
      rw [ha, nextStart, hlast, ← hlength]
      rfl

/-- The attempts of a delivery, of which only the last one may have succeeded, and its report are
as the policy wants them. -/
structure Retries (policy : RetryPolicy) (earlier : List Attempt) (last : Attempt)
    (report : Report) : Prop where
  spaced : Spaced policy (earlier ++ [last])
  attempts : report.attempts = earlier.length + 1
  le : earlier.length + 1 ≤ max 1 policy.maxRetries.toNat
  failed : ∀ a ∈ earlier, ∃ reason, a.result = .error reason
  exhausted : ∀ reason, last.result = .error reason →
    earlier.length + 1 = max 1 policy.maxRetries.toNat
  ok_iff : ∀ status, last.result = .ok status ↔
    report.outcome = .delivered ∧ report.status = some status
  error_iff : ∀ reason, last.result = .error reason ↔
    report.outcome = .failed reason ∧ report.status = failureStatus reason
  proper : ∀ a ∈ earlier ++ [last], IsProper a.result

/-! ## Journals -/

/-- The attempts of a delivery so far. -/
structure Journal where
  /-- Those that have ended, oldest first. -/
  ended : List Attempt
  /-- When the latest one started. -/
  started : Nat
  /-- The time of the last move. -/
  time : Nat

/-- The journal before the first attempt. -/
def Journal.empty : Journal := ⟨[], 0, 0⟩

/-- When the attempt started that is under way after a move. -/
def Journal.startedAfter (j : Journal) (time : Nat) : Move → Nat
  | .send => time
  | _ => j.started

/-- The journal after a move. -/
def Journal.add (j : Journal) (sender : Sender) (x : Delivery) (time : Nat) (m : Move) :
    Journal where
  ended := j.ended ++
    (x.result? sender m).toList.map fun result => ⟨j.startedAfter time m, time, result⟩
  started := j.startedAfter time m
  time

/-- All attempts that have ended have failed, there is to be one more, and it starts at a time. -/
structure IsOpen (ended : List Attempt) (x : Delivery) (start : Nat) : Prop where
  number : x.attempt = ended.length + 1
  le : x.attempt ≤ x.endpoint.retryPolicy.attempts
  failed : ∀ a ∈ ended, ∃ reason, a.result = .error reason
  proper : ∀ a ∈ ended, IsProper a.result
  spaced : Spaced x.endpoint.retryPolicy ended
  start : start = nextStart x.endpoint.retryPolicy ended

/-- The journal of a delivery is as its policy wants it. -/
def Tried (j : Journal) (x : Delivery) : Prop :=
  match x.phase with
  | .due time => IsOpen j.ended x time
  | .flying _ _ => IsOpen j.ended x j.started
  | .settled report => ∃ earlier last, j.ended = earlier ++ [last] ∧ j.time = last.finish ∧
    Retries x.endpoint.retryPolicy earlier last report

/-- A delivery that starts has tried nothing yet, and is due at once. -/
theorem tried_start (envelope : Envelope) (endpoint : Endpoint) :
    Tried .empty (Delivery.start 0 envelope endpoint) where
  number := rfl
  le := Nat.le_max_left ..
  failed := by simp [Journal.empty]
  proper := by simp [Journal.empty]
  spaced := by constructor <;> simp [Journal.empty]
  start := rfl

/-- An attempt that ends keeps the journal as the policy wants it. -/
theorem IsOpen.conclude {ended : List Attempt} {start : Nat} (h : IsOpen ended x start)
    {result : AttemptResult} (hp : IsProper result) (now : Nat) :
    Tried ⟨ended ++ [⟨start, now, result⟩], start, now⟩ (x.conclude now result) := by
  have hspaced : Spaced x.endpoint.retryPolicy (ended ++ [⟨start, now, result⟩]) :=
    h.spaced.concat h.start
  have hproper : ∀ a ∈ ended ++ [⟨start, now, result⟩], IsProper a.result :=
    List.forall_mem_append.2 ⟨h.proper, List.forall_mem_singleton.2 hp⟩
  -- a report on the delivery counts the attempts
  have hreport : ∀ outcome status,
      (∀ reason, result = .error reason → x.attempt = x.endpoint.retryPolicy.attempts) →
      (∀ code, result = .ok code ↔ outcome = .delivered ∧ status = some code) →
      (∀ reason, result = .error reason ↔
        outcome = .failed reason ∧ status = failureStatus reason) →
      Retries x.endpoint.retryPolicy ended ⟨start, now, result⟩ (x.report outcome status) :=
    fun _ _ hexhausted hok herror => {
      spaced := hspaced
      attempts := h.number
      le := h.number ▸ h.le
      failed := h.failed
      exhausted := fun reason he => h.number ▸ hexhausted reason he
      ok_iff := hok
      error_iff := herror
      proper := hproper }
  rcases conclude_cases x now result with ⟨status, rfl, hc⟩ | ⟨reason, rfl, hlt, hc⟩ |
    ⟨reason, rfl, hge, hc⟩
  · rw [hc]
    exact ⟨ended, _, rfl, rfl, hreport _ _ (by simp) (by simp) (by simp)⟩
  · rw [hc]
    exact {
      number := by rw [h.number, List.length_append, List.length_singleton]
      le := hlt
      failed := List.forall_mem_append.2
        ⟨h.failed, List.forall_mem_singleton.2 ⟨reason, rfl⟩⟩
      proper := hproper
      spaced := hspaced
      start := by
        rw [nextStart, List.getLast?_concat, List.length_append, List.length_singleton,
          ← h.number] }
  · rw [hc]
    have hfailed : ∀ other, (.error reason : AttemptResult) = .error other ↔
        Outcome.failed reason = .failed other ∧
          failureStatus reason = failureStatus other := by
      intro other
      rw [Except.error.injEq, Outcome.failed.injEq]
      exact ⟨fun he => ⟨he, by rw [he]⟩, And.left⟩
    exact ⟨ended, _, rfl, rfl,
      hreport _ _ (fun _ _ => Nat.le_antisymm h.le hge) (by simp) hfailed⟩

/-- A move that comes next, and at its time, keeps the journal as the policy wants it. -/
theorem Tried.move {s : Stage} {answers : Answers} {j : Journal} (h : Tried j s.delivery)
    (hn : s.next? answers = some (time, m)) (hm : s.delivery.move? sender time m = some y) :
    Tried (j.add sender s.delivery time m) y := by
  -- an attempt is open after the move has begun, be it a new one or the one under way
  have hopen : IsOpen j.ended s.delivery (j.startedAfter time m) := by
    unfold Tried at h
    unfold Stage.next? at hn
    split at hn
    next due hp =>
      cases hn
      rw [hp] at h
      exact h
    next flight deadline hp =>
      rw [hp] at h
      -- only the start of an attempt sets the time from which it counts
      have hstarted : j.startedAfter time m = j.started := by
        split at hn
        · split at hn <;> cases hn <;> rfl
        · cases hn
          rfl
      rw [hstarted]
      exact h
    · cases hn
  rcases result?_cases hm with ⟨hnone, flight, deadline, rfl⟩ | ⟨result, hsome, rfl⟩
  · simp only [Journal.add, hnone, Option.toList_none, List.map_nil, List.append_nil]
    exact ⟨hopen.number, hopen.le, hopen.failed, hopen.proper, hopen.spaced, hopen.start⟩
  · have hp := isProper_of_result? hsome
    simp only [Journal.add, hsome, Option.toList_some, List.map_cons, List.map_nil]
    exact hopen.conclude hp time

/-! ## A delivery to its end -/

namespace Stage

variable {answers : Answers} {envelope : Envelope} {endpoint : Endpoint} {n : Nat}

/-- The journal of a delivery by itself after so many moves. -/
def journal (sender : Sender) (answers : Answers) (envelope : Envelope) (endpoint : Endpoint) :
    Nat → Journal
  | 0 => .empty
  | n + 1 =>
    let j := journal sender answers envelope endpoint n
    let s := after sender answers envelope endpoint n
    match s.next? answers with
    | none => j
    | some (time, m) => j.add sender s.delivery time m

/-- A delivery has come to its end, or one more move follows. -/
theorem settled_or_moves (sender : Sender) (answers : Answers) (envelope : Envelope)
    (endpoint : Endpoint) (n : Nat) :
    (∃ report, (after sender answers envelope endpoint n).delivery.phase = .settled report) ∨
    ∃ time m y, (after sender answers envelope endpoint n).next? answers = some (time, m) ∧
      (after sender answers envelope endpoint n).delivery.move? sender time m = some y ∧
      after sender answers envelope endpoint (n + 1) =
        (after sender answers envelope endpoint n).moved y time := by
  by_cases hp : ∃ report,
      (after sender answers envelope endpoint n).delivery.phase = .settled report
  · exact .inl hp
  · -- a delivery that has not come to its end has a next move, which is possible
    obtain ⟨time, m, hn⟩ := exists_next? (fun report h => hp ⟨report, h⟩) answers
    obtain ⟨y, hm⟩ := exists_move? hn sender
    exact .inr ⟨time, m, y, hn, hm, next_eq_moved hn hm⟩

/-- What holds at the start and stays with each move, holds of a delivery and its journal. -/
theorem journal_induction {p : Stage → Journal → Prop}
    (start : p ⟨Delivery.start 0 envelope endpoint, []⟩ .empty)
    (move : ∀ s j time m y, p s j → s.next? answers = some (time, m) →
      s.delivery.move? sender time m = some y →
      p (s.moved y time) (j.add sender s.delivery time m)) (n : Nat) :
    p (after sender answers envelope endpoint n) (journal sender answers envelope endpoint n) := by
  induction n with
  | zero => exact start
  | succ n ih =>
    rcases settled_or_moves sender answers envelope endpoint n with ⟨report, hp⟩ |
      ⟨time, m, y, hn, hm, hafter⟩
    · -- nothing happens any more
      have hnone : (after sender answers envelope endpoint n).next? answers = none := by
        simp only [next?, hp]
      simp only [after, next, journal, hnone]
      exact ih
    · simp only [hafter, journal, hn]
      exact move _ _ _ _ _ ih hn hm

/-- A delivery comes to its end, whatever is answered. -/
theorem exists_settled (sender : Sender) (answers : Answers) (envelope : Envelope)
    (endpoint : Endpoint) :
    ∃ n report, (after sender answers envelope endpoint n).delivery.phase = .settled report := by
  -- each move leaves less to do, so that the induction is on what is left
  have hend : ∀ work n, (after sender answers envelope endpoint n).delivery.work = work →
      ∃ k report, (after sender answers envelope endpoint k).delivery.phase = .settled report := by
    intro work
    induction work using Nat.strongRecOn with
    | _ work ih =>
      intro n hwork
      rcases settled_or_moves sender answers envelope endpoint n with hp |
        ⟨time, m, y, -, hm, hafter⟩
      · exact ⟨n, hp⟩
      · have hlt := work_lt_of_move? hm
        rw [hwork] at hlt
        exact ih _ hlt (n + 1) (by rw [hafter]; rfl)
  exact hend _ 0 rfl

/-- The journal of a delivery is right at every stage. -/
theorem tried_journal (n : Nat) :
    Tried (journal sender answers envelope endpoint n)
      (after sender answers envelope endpoint n).delivery :=
  journal_induction (p := fun s j => Tried j s.delivery) (tried_start envelope endpoint)
    (fun _ _ _ _ _ h hn hm => h.move hn hm) n

/-- The endpoint stays the same at every stage. -/
theorem endpoint_after (n : Nat) :
    (after sender answers envelope endpoint n).delivery.endpoint = endpoint :=
  journal_induction (p := fun s _ => s.delivery.endpoint = endpoint) rfl
    (fun _ _ _ _ _ h _ hm => (move?_frame hm).1.trans h) n

/-- A delivery comes to its end, with all its attempts in the journal as its policy wants them. -/
theorem exists_retries (sender : Sender) (answers : Answers) (envelope : Envelope)
    (endpoint : Endpoint) : ∃ n earlier last report,
      (after sender answers envelope endpoint n).delivery.phase = .settled report ∧
        (journal sender answers envelope endpoint n).ended = earlier ++ [last] ∧
        (journal sender answers envelope endpoint n).time = last.finish ∧
        Retries endpoint.retryPolicy earlier last report := by
  obtain ⟨n, report, hp⟩ := exists_settled sender answers envelope endpoint
  have htried : Tried (journal sender answers envelope endpoint n)
      (after sender answers envelope endpoint n).delivery := tried_journal n
  simp only [Tried, hp, endpoint_after] at htried
  obtain ⟨earlier, last, hended, htime, hretries⟩ := htried
  exact ⟨n, earlier, last, report, hp, hended, htime, hretries⟩

/-- Each attempt of a delivery that can be sent has sent its request when it started. -/
structure Requested (sender : Sender) (r : Request) (s : Stage) (j : Journal) : Prop where
  request : s.delivery.request sender = .ok r
  ended : ∀ a ∈ j.ended, (a.start, r) ∈ s.sent
  flying : ∀ flight deadline, s.delivery.phase = .flying flight deadline → (j.started, r) ∈ s.sent

/-- A move keeps the requests of all attempts among those that were sent. -/
theorem Requested.move {s : Stage} {j : Journal} {r : Request} (h : Requested sender r s j)
    (hm : s.delivery.move? sender time m = some y) :
    Requested sender r (s.moved y time) (j.add sender s.delivery time m) := by
  obtain ⟨hendpoint, henvelope⟩ := move?_frame hm
  have hkeeps : ∀ p ∈ s.sent, p ∈ (s.moved y time).sent := fun p hp => List.mem_append_left _ hp
  -- an attempt that starts sends the request now, and one under way has sent it
  have hstarted : (j.startedAfter time m, r) ∈ (s.moved y time).sent := by
    rcases move?_cases hm with ⟨due, rfl, -, -, rfl⟩ | ⟨flight, deadline, reply, rfl, hp, -⟩ |
      ⟨flight, deadline, rfl, hp, -, -⟩
    · simp [moved, requestAt, send, h.request, Flight.start, Journal.startedAfter]
    · exact hkeeps _ (h.flying flight deadline hp)
    · exact hkeeps _ (h.flying flight deadline hp)
  refine ⟨?_, ?_, fun _ _ _ => hstarted⟩
  · rw [← h.request]
    simp only [Delivery.request, moved, hendpoint, henvelope]
  · intro a ha
    rcases List.mem_append.1 ha with ha | ha
    · exact hkeeps _ (h.ended a ha)
    · obtain ⟨result, -, rfl⟩ := List.mem_map.1 ha
      exact hstarted

/-- At every stage, each attempt of the journal has sent the request of the delivery. -/
theorem requested_journal {r : Request}
    (hr : (Delivery.start 0 envelope endpoint).request sender = .ok r) (n : Nat) :
    Requested sender r (after sender answers envelope endpoint n)
      (journal sender answers envelope endpoint n) := by
  refine journal_induction (p := Requested sender r) ⟨hr, ?_, ?_⟩ ?_ n
  · intro a ha
    cases ha
  · intro flight deadline hp
    cases hp
  · exact fun _ _ _ _ _ h _ hm => h.move hm

end Stage

end Webhook.Delivery
