import Webhook.Proofs.Delivery.Course

/-!
# Redirects and success

A delivery succeeds by the status of the last response alone. A 301, 302 or 303 before it has turned
the `POST` into a `GET` without body, so that the response is none to the envelope.
`delivered_iff_posted` says exactly when a success is that of a `POST` of the payload: when the last
attempt met no such redirect. `delivered_unposted` is a success in which the payload went nowhere
but to the server that redirected it.

`Tells` is the invariant of a course. As long as there is no success, no exchange has the status of
one; and the request under way is the `POST` of the payload up to the first redirect that rewrites
it (`Carries`).
-/

namespace Webhook

namespace Http

/-- Whether a redirect with a status turns a request into a `GET` without body. -/
def rewrites (status : Nat) : Bool := status = 301 || status = 302 || status = 303

/-- A success is no redirect that changes the method. -/
theorem rewrites_of_isSuccess {status : Nat} (h : isSuccess status = true) :
    rewrites status = false := by
  simp only [isSuccess, Bool.and_eq_true, decide_eq_true_eq] at h
  simp only [rewrites, Bool.or_eq_false_iff, decide_eq_false_iff_not]
  omega

/-- A redirect is no success, and the request that it leaves is rewritten, or keeps method and
body. -/
theorem of_redirected?_eq_some {status : Nat} {r r' : Request}
    (h : redirected? status r = some r') : isSuccess status = false ∧
      r'.method = (if rewrites status then .get else r.method) ∧
      r'.body = (if rewrites status then none else r.body) := by
  unfold redirected? at h
  split at h
  next hs =>
    cases h
    -- of the five statuses, three change the method
    have hrewrites : rewrites status = true := by simpa [rewrites, or_assoc] using hs
    rw [hrewrites]
    refine ⟨?_, rfl, rfl⟩
    rcases hs with rfl | rfl | rfl <;> rfl
  · split at h
    next hs =>
      cases h
      rcases hs with rfl | rfl <;> exact ⟨rfl, rfl, rfl⟩
    · cases h

/-- A request at another url has the same method. -/
theorem Request.moveTo_method (r : Request) (url : Url) : (r.moveTo url).method = r.method := by
  unfold moveTo
  split <;> rfl

/-- A request at another url has the same body. -/
theorem Request.moveTo_body (r : Request) (url : Url) : (r.moveTo url).body = r.body := by
  unfold moveTo
  split <;> rfl

/-- A response is followed by a request, which is rewritten or keeps method and body, or ends the
flight with a failure of the network, or is the result. The first two are for no success. -/
theorem Flight.receive_response_cases (f : Flight) (status : Nat) (location : Option String) :
    (∃ next, f.receive (.response status location) = .onward next ∧ isSuccess status = false ∧
      next.request.method = (if rewrites status then .get else f.request.method) ∧
      next.request.body = (if rewrites status then none else f.request.body)) ∨
    (∃ detail, f.receive (.response status location) = .landed (.error (.network detail)) ∧
      isSuccess status = false) ∨
    f.receive (.response status location) = .landed (resultOf status) := by
  -- the response is followed only if it has the status, a target and a redirect to spare
  cases hr : redirected? status f.request with
  | none => exact .inr (.inr (by simp only [receive, hr]))
  | some r =>
    obtain ⟨hs, hmethod, hbody⟩ := of_redirected?_eq_some hr
    cases ht : f.target? location with
    | none => exact .inr (.inr (by simp only [receive, hr, ht]))
    | some target =>
      cases target with
      | none => exact .inr (.inl ⟨_, by simp only [receive, hr, ht]; rfl, hs⟩)
      | some url =>
        by_cases hmax : maxRedirects ≤ f.redirects
        · exact .inr (.inl ⟨_, by simp only [receive, hr, ht, follow, if_pos hmax]; rfl, hs⟩)
        · refine .inl ⟨_, by simp only [receive, hr, ht, follow, if_neg hmax]; rfl, hs, ?_, ?_⟩
          · exact (r.moveTo_method url).trans hmethod
          · exact (r.moveTo_body url).trans hbody

/-- A request to an endpoint is a `POST` of the body. -/
theorem Request.post_eq (url : Url) (headers : HeaderMap) (body : Bytes) :
    (Request.post url headers body).method = .post ∧
      (Request.post url headers body).body = some body := by
  unfold Request.post
  split <;> exact ⟨rfl, rfl⟩

end Http

namespace Delivery

open Http

/-! ## The request under way -/

/-- A request is the `POST` of a body. -/
def IsPostOf (body : Bytes) (r : Request) : Prop := r.method = .post ∧ r.body = some body

/-- After these exchanges of an attempt, the request is the `POST` of a body, or has been
rewritten. -/
def Carries (body : Bytes) (attempt : List Exchange) (r : Request) : Prop :=
  if attempt.any (rewrites ·.status) then r.method = .get else IsPostOf body r

/-- No exchange has the status of a success. -/
def Unsuccessful (log : List (List Exchange)) : Prop :=
  ∀ attempt ∈ log, ∀ exchange ∈ attempt, isSuccess exchange.status = false

/-- What the exchanges of a delivery say about where it stands. -/
def Tells (x : Delivery) (log : List (List Exchange)) : Prop :=
  match x.phase with
  | .due _ => Unsuccessful log
  | .flying flight _ => Unsuccessful log ∧ ∃ attempt earlier, log = attempt :: earlier ∧
      Carries x.envelope.canonicalPayload attempt flight.request
  | .settled report =>
    match report.outcome with
    | .failed _ => Unsuccessful log
    | .delivered => ∃ attempt exchange earlier, log = (attempt ++ [exchange]) :: earlier ∧
        Unsuccessful (attempt :: earlier) ∧
        Carries x.envelope.canonicalPayload attempt exchange.request ∧
        report.status = some exchange.status ∧ isSuccess exchange.status

variable {x y first : Delivery} {sender : Sender} {now : Nat} {log : List (List Exchange)}
  {body : Bytes} {attempt : List Exchange} {r next : Request} {status : Nat}

/-- The request of an attempt is the `POST` of the payload; without one, the attempt fails. -/
theorem request_cases (x : Delivery) (sender : Sender) :
    (∃ r, x.request sender = .ok r ∧ IsPostOf x.envelope.canonicalPayload r) ∨
      ∃ reason, x.request sender = .error (.error reason) := by
  unfold request
  split
  · exact .inr ⟨_, rfl⟩
  next url _ =>
    simp only
    split
    · exact .inl ⟨_, rfl, Request.post_eq ..⟩
    · exact .inr ⟨_, rfl⟩

/-- The request that follows a response is rewritten, if it was not before, where the response
says so. -/
theorem Carries.follow (hc : Carries body attempt r)
    (hmethod : next.method = (if rewrites status then .get else r.method))
    (hbody : next.body = (if rewrites status then none else r.body)) :
    Carries body (attempt ++ [⟨r, status⟩]) next := by
  unfold Carries at hc ⊢
  rw [List.any_append, List.any_cons, List.any_nil, Bool.or_false]
  -- the request is changed here, or is what those before have made of it
  cases hs : rewrites status with
  | true =>
    rw [Bool.or_true, if_pos rfl, hmethod, hs]
    rfl
  | false =>
    rw [hs] at hmethod hbody
    rw [Bool.or_false]
    split at hc
    next ha => rw [if_pos ha]; exact hmethod.trans hc
    next ha => rw [if_neg ha]; exact ⟨hmethod.trans hc.1, hbody.trans hc.2⟩

/-! ## The invariant -/

/-- An attempt without exchanges adds no success. -/
theorem Unsuccessful.nil_cons (hu : Unsuccessful log) : Unsuccessful ([] :: log) := by
  intro attempt ha exchange he
  rcases List.mem_cons.1 ha with rfl | ha
  · cases he
  · exact hu attempt ha exchange he

/-- An exchange that is no success adds none. -/
theorem Unsuccessful.concat {earlier : List (List Exchange)}
    (hu : Unsuccessful (attempt :: earlier)) (hs : isSuccess status = false) :
    Unsuccessful ((attempt ++ [⟨r, status⟩]) :: earlier) := by
  intro attempt' ha exchange he
  rcases List.mem_cons.1 ha with rfl | ha
  · rcases List.mem_append.1 he with he | he
    · exact hu attempt List.mem_cons_self exchange he
    · rw [List.mem_singleton.1 he]
      exact hs
  · exact hu attempt' (List.mem_cons_of_mem _ ha) exchange he

/-- A failed attempt leaves a delivery without a success. -/
theorem tells_conclude_error (hu : Unsuccessful log) (x : Delivery) (now : Nat)
    (reason : FailureReason) : (x.conclude now (.error reason)).Tells log := by
  rcases conclude_cases x now (.error reason) with ⟨_, he, -⟩ | ⟨_, -, -, hc⟩ | ⟨_, -, -, hc⟩
  · cases he
  · rw [hc]
    exact hu
  · rw [hc]
    exact hu

/-- An attempt that starts has no exchanges yet, and its first request carries the payload. -/
theorem Tells.send (hu : Unsuccessful log) (x : Delivery) (sender : Sender) (now : Nat) :
    (x.send sender now).Tells ([] :: log) := by
  unfold Delivery.send
  rcases request_cases x sender with ⟨r, hr, hpost⟩ | ⟨reason, hr⟩
  · rw [hr]
    exact ⟨hu.nil_cons, [], log, rfl, hpost⟩
  · rw [hr]
    exact tells_conclude_error hu.nil_cons x now reason

/-- A response adds its exchange, and ends the attempt or leaves a request that is told of. -/
theorem Tells.receive {flight : Flight} {deadline : Nat} {earlier : List (List Exchange)}
    (hu : Unsuccessful (attempt :: earlier))
    (hc : Carries x.envelope.canonicalPayload attempt flight.request) (status : Nat)
    (location : Option String) :
    (x.receive now flight deadline (.response status location)).Tells
      ((attempt ++ [⟨flight.request, status⟩]) :: earlier) := by
  unfold Delivery.receive
  -- the response is followed, cannot be followed, or ends the attempt
  rcases flight.receive_response_cases status location with
    ⟨next, hf, hs, hmethod, hbody⟩ | ⟨detail, hf, hs⟩ | hf <;> rw [hf]
  · exact ⟨hu.concat hs, _, earlier, rfl, hc.follow hmethod hbody⟩
  · exact tells_conclude_error (hu.concat hs) x now _
  · cases hs : isSuccess status with
    | true =>
      rw [resultOf, if_pos hs]
      exact ⟨attempt, _, earlier, rfl, hu, hc, rfl, hs⟩
    | false =>
      rw [resultOf, if_neg (Bool.eq_false_iff.1 hs)]
      exact tells_conclude_error (hu.concat hs) x now _

/-- A move leaves a delivery that tells of the exchanges up to then. -/
theorem Tells.move {m : Move} (ht : x.Tells log) (hm : x.move? sender now m = some y) :
    y.Tells (logAfter x log m) := by
  unfold Tells at ht
  -- the first request of an attempt, a reply to the latest, or none in time
  rcases move?_cases hm with ⟨time, rfl, hp, -, rfl⟩ | ⟨flight, deadline, reply, rfl, hp, rfl⟩ |
    ⟨flight, deadline, rfl, hp, -, rfl⟩
  · rw [hp] at ht
    exact Tells.send ht x sender now
  · rw [hp] at ht
    obtain ⟨hu, attempt, earlier, rfl, hc⟩ := ht
    cases reply with
    | response status location =>
      simp only [logAfter, hp]
      exact Tells.receive hu hc status location
    | broken => exact tells_conclude_error hu x now _
  · rw [hp] at ht
    exact tells_conclude_error ht.1 x now _

/-- A delivery tells of the exchanges of its course. -/
theorem Course.tells {envelope : Envelope} {endpoint : Endpoint}
    (hc : Course sender (Delivery.start now envelope endpoint) x log) : x.Tells log := by
  induction hc with
  | start =>
    intro attempt ha
    cases ha
  | move now m hc hm ih => exact ih.move hm

/-! ## Successes -/

/-- An exchange with the status of a success is the last one, if those before have none. -/
theorem Unsuccessful.eq_last {earlier : List (List Exchange)} {last exchange : Exchange}
    (hu : Unsuccessful (attempt :: earlier)) (hs : isSuccess exchange.status = true)
    {attempt' : List Exchange} (ha : attempt' ∈ (attempt ++ [last]) :: earlier)
    (he : exchange ∈ attempt') : exchange = last := by
  -- nothing before the last exchange was a success
  have hne : ∀ before ∈ attempt :: earlier, exchange ∉ before := by
    intro before hb hmem
    rw [hu before hb exchange hmem] at hs
    cases hs
  rcases List.mem_cons.1 ha with rfl | ha
  · rcases List.mem_append.1 he with he | he
    · exact absurd he (hne attempt List.mem_cons_self)
    · exact List.mem_singleton.1 he
  · exact absurd he (hne attempt' (List.mem_cons_of_mem _ ha))

/-- In every course of a delivery that ends with a success, the success has the status of the last
response, one of a success; and that was the response to a `POST` of the payload exactly if no
redirect of the last attempt has rewritten the request. -/
theorem delivered_iff_posted {envelope : Envelope} {endpoint : Endpoint} {report : Report}
    (hc : Course sender (start now envelope endpoint) x log) (hp : x.phase = .settled report)
    (hd : report.outcome = .delivered) :
    ∃ status last earlier, report.status = some status ∧ isSuccess status ∧
      log = last :: earlier ∧
      ((∃ attempt ∈ log, ∃ exchange ∈ attempt,
          IsPostOf envelope.canonicalPayload exchange.request ∧ exchange.status = status) ↔
        ∀ exchange ∈ last, rewrites exchange.status = false) := by
  have ht := hc.tells
  simp only [Tells, hp, hd] at ht
  obtain ⟨attempt, exchange, earlier, rfl, hu, hcarries, hs, hsuccess⟩ := ht
  rw [hc.frame.2] at hcarries
  have hlast : rewrites exchange.status = false := rewrites_of_isSuccess hsuccess
  have hiff : (∀ before ∈ attempt ++ [exchange], rewrites before.status = false) ↔
      attempt.any (rewrites ·.status) = false := by
    simp [or_imp, forall_and, hlast]
  refine ⟨exchange.status, _, earlier, hs, hsuccess, rfl, ?_⟩
  rw [hiff]
  unfold Carries at hcarries
  constructor
  · rintro ⟨attempt', ha, exchange', he, hpost, hstatus⟩
    -- a success is the last exchange, which is the `POST` only if nothing has rewritten it
    have hsame : exchange' = exchange := hu.eq_last (hstatus ▸ hsuccess) ha he
    subst hsame
    refine Bool.eq_false_iff.2 fun hany => ?_
    rw [if_pos hany, hpost.1] at hcarries
    cases hcarries
  · intro hany
    rw [if_neg (by simp [hany])] at hcarries
    exact ⟨_, List.mem_cons_self, exchange, by simp, hcarries, rfl⟩

/-! ## A success without the payload -/

namespace Redirected

/-- An endpoint whose server has moved, and which is tried only once. -/
def endpoint : Endpoint where
  id := ⟨"one"⟩
  url := "http://a.test/h"
  secret := "sA"
  events := EventSet.ofList [.groupCreated]
  enabled := true
  retryPolicy := ⟨1, 10⟩
  headers := Dictionary.empty

/-- An envelope for it. -/
def envelope : Envelope := sampleEnvelope "first"

/-- The server answers with a redirect, and the one at the target with a success. -/
def moves (status : Nat) : List (Nat × Move) :=
  [(0, .send), (0, .reply (.response status (some "http://a.test/new"))),
   (0, .reply (.response 200 none))]

/-- The delivery is reported as a success with 200, and its exchanges have a property. -/
def succeeds (status : Nat) (p : List (List Exchange) → Bool) : Bool :=
  (follow? ⟨"agent", 10000⟩ (moves status) (Delivery.start 0 envelope endpoint) []).any fun c =>
    p c.2 && match c.1.phase with
      | .settled report => report.outcome = .delivered && report.status = some 200
      | _ => false

/-- A delivery that is so reported is at the end of a course. -/
theorem of_succeeds {status : Nat} {p : List (List Exchange) → Bool} (h : succeeds status p) :
    ∃ x log report, Course ⟨"agent", 10000⟩ (Delivery.start 0 envelope endpoint) x log ∧
      x.phase = .settled report ∧ report.outcome = .delivered ∧ report.status = some 200 ∧
      p log = true := by
  obtain ⟨⟨x, log⟩, hf, hx⟩ := (Option.any_eq_true _ _).1 h
  obtain ⟨hp, hr⟩ := Bool.and_eq_true_iff.1 hx
  have hc := Course.start.follow hf
  -- the test has looked for a report, so that the delivery is at its end
  cases hphase : x.phase with
  | settled report =>
    simp only [hphase, Bool.and_eq_true, decide_eq_true_eq] at hr
    exact ⟨x, log, report, hc, hphase, hr.1, hr.2, hp⟩
  | due time => simp [hphase] at hr
  | flying flight deadline => simp [hphase] at hr

end Redirected

/-- After a redirect with 308, the success is that of a `POST` of the payload. -/
theorem delivered_posted : ∃ x log report,
    Course ⟨"agent", 10000⟩ (start 0 Redirected.envelope Redirected.endpoint) x log ∧
      x.phase = .settled report ∧ report.outcome = .delivered ∧
      ∃ attempt ∈ log, ∃ exchange ∈ attempt,
        IsPostOf Redirected.envelope.canonicalPayload exchange.request ∧
          report.status = some exchange.status := by
  have h : Redirected.succeeds 308
      (fun log => log.all fun attempt => attempt.all fun e => !rewrites e.status) := by decide
  obtain ⟨x, log, report, hc, hp, hd, -, hall⟩ := Redirected.of_succeeds h
  obtain ⟨status, last, earlier, hs, -, rfl, hiff⟩ := delivered_iff_posted hc hp hd
  -- no response of the delivery was one that changes the method
  have hlast : ∀ exchange ∈ last, rewrites exchange.status = false := by
    simpa using (List.all_eq_true.1 hall) last List.mem_cons_self
  obtain ⟨attempt, ha, exchange, he, hpost, hstatus⟩ := hiff.2 hlast
  exact ⟨x, _, report, hc, hp, hd, attempt, ha, exchange, he, hpost, hstatus ▸ hs⟩

/-- After a redirect with 302, no `POST` of the payload has got the status of the success. -/
theorem delivered_unposted : ∃ x log report,
    Course ⟨"agent", 10000⟩ (start 0 Redirected.envelope Redirected.endpoint) x log ∧
      x.phase = .settled report ∧ report.outcome = .delivered ∧ report.status = some 200 ∧
      ¬ ∃ attempt ∈ log, ∃ exchange ∈ attempt,
        IsPostOf Redirected.envelope.canonicalPayload exchange.request ∧
          exchange.status = 200 := by
  have h : Redirected.succeeds 302 (fun log => log.all fun attempt => attempt.all fun e =>
      !(e.status = 200 && e.request.method = .post)) := by decide
  obtain ⟨x, log, report, hc, hp, hd, hs, hall⟩ := Redirected.of_succeeds h
  refine ⟨x, log, report, hc, hp, hd, hs, ?_⟩
  -- the exchange with the status 200 is that of the `GET`
  rintro ⟨attempt, ha, exchange, he, hpost, hstatus⟩
  have := List.all_eq_true.1 (List.all_eq_true.1 hall attempt ha) exchange he
  simp [hstatus, hpost.1] at this

end Delivery

end Webhook
