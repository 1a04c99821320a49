import Webhook.Proofs.Delivery.Requests
import Webhook.Proofs.Dispatcher.History

/-!
# Every request is authentic

`requests_authentic` holds of every run of a new dispatcher. The request with which an attempt
starts is the `POST` of the canonical payload, signed with the secret of the endpoint, so that a
receiver who knows the secret accepts it. It is the same for every attempt, and the payload is the
same for every endpoint.

A request is sent in the course of a delivery (`Run.exists_course_of_requested`), and the course
leads back to `Delivery.request`, which depends on the envelope, the endpoint and the sender alone
(`Delivery.Course.requests`).
-/

namespace Webhook

/-- A receiver accepts headers that hold the signature of the payload under its secret. -/
theorem verifyRequest_entries {headers : HeaderMap} (hl : headers.Lowered) {payload secret : Bytes}
    (hs : headers.get? (Text.lower signatureHeader) = some (Signature.compute secret payload)) :
    verifyRequest headers.entries payload secret = .ok () := by
  have hread : (SignatureHeaders.ofHeaders headers.entries).signature =
      some (Signature.compute secret payload) := by
    rw [SignatureHeaders.signature_ofHeaders, HeaderMap.lastValue?_entries hl, hs]
  unfold verifyRequest
  rw [hread]
  simp only
  rw [if_pos (Signature.verify_compute secret payload)]

namespace Delivery

variable {x y : Delivery} {sender : Sender} {r : Http.Request}

/-- A request is the `POST` of the canonical payload of the envelope, and a receiver who knows the
secret of the endpoint accepts it, unless the endpoint sets the signature itself. -/
def IsAuthentic (x : Delivery) (r : Http.Request) : Prop :=
  IsPostOf x.envelope.canonicalPayload r ∧
    (x.endpoint.Lacks signatureHeader →
      verifyRequest r.headers.entries x.envelope.canonicalPayload (Text.utf8 x.endpoint.secret) =
        .ok ())

/-- The request that opens an attempt is authentic. -/
theorem isAuthentic_request (h : x.request sender = .ok r) : x.IsAuthentic r :=
  ⟨isPostOf_request h, fun hl => verifyRequest_entries (lowered_request h) (get?_signature h hl)⟩

/-- The request of an attempt is that of every attempt. -/
theorem request_congr (he : x.endpoint = y.endpoint) (hv : x.envelope = y.envelope)
    (sender : Sender) : x.request sender = y.request sender := by
  simp only [request, he, hv]

/-- An attempt starts with the request of the delivery, or ends at once where there is none. -/
theorem send_cases (x : Delivery) (sender : Sender) (now : Nat) :
    (∃ r, x.request sender = .ok r ∧ (x.send sender now).opens ∧
      Dispatcher.requestOf (x.send sender now) now =
        [.requested (x.send sender now) now r]) ∨
      (∃ result, x.request sender = .error result ∧
        Dispatcher.requestOf (x.send sender now) now = []) := by
  unfold send
  cases hr : x.request sender with
  | ok r => exact .inl ⟨r, rfl, rfl, rfl⟩
  | error result =>
    refine .inr ⟨result, rfl, ?_⟩
    simp only
    -- without a request the attempt is concluded at once, in one of three ways
    rcases conclude_cases x now result with ⟨_, -, hc⟩ | ⟨_, -, -, hc⟩ | ⟨_, -, -, hc⟩ <;>
      rw [hc] <;> rfl

end Delivery

/-- A delivery is one of an envelope that was put into the queue, to one of the endpoints that were
looked up for it. -/
def History.Owes (h : History) (x : Delivery) : Prop :=
  ∃ round ∈ h.rounds, round.item ∈ h.accepted ∧ x.envelope = round.item.envelope ∧
    x.endpoint ∈ round.recipients

namespace Dispatcher

variable {d d' : Dispatcher} {action : Action} {actions : List Action} {events : List Occurrence}
  {h : History} {x : Delivery} {time : Nat} {r : Http.Request}

/-- A delivery the worker has under way is one the history owes. -/
theorem owes_of_mem {deliveries : List Delivery} (hf : h.Follows d)
    (hw : d.worker = .delivering deliveries) (hx : x ∈ deliveries) : h.Owes x := by
  obtain ⟨round, hr⟩ := Option.isSome_iff_exists.1 (hf.opened _ hw)
  have hround : round ∈ h.rounds := by simp [History.rounds, hr]
  have haw := hf.latest round hr
  rw [hw] at haw
  refine ⟨round, hround, ?_, haw.envelope x hx, haw.endpoint x hx⟩
  -- what was taken was accepted before
  rw [hf.accepted, hf.taken]
  simp [List.mem_map_of_mem hround]

/-- A request that is sent is the one that the delivery then waits for the reply to. -/
theorem Step.phase_of_requested (hs : Step d action d' [.requested x time r]) :
    ∃ flight deadline, x.phase = .flying flight deadline ∧ r = flight.request := by
  generalize he : [Occurrence.requested x time r] = events at hs
  cases hs with
  | deliver index move x₀ y ha hw hx hm =>
    unfold requestOf at he
    split at he
    next flight deadline hp =>
      cases he
      exact ⟨flight, deadline, hp, rfl⟩
    · cases he
  | _ => cases he

/-- A request that is sent belongs to the course of a delivery that is to be made. -/
theorem Run.exists_course_of_requested {config : Config} {before after : List Occurrence}
    (hr : Run (create config) actions d events)
    (he : events = before ++ .requested x time r :: after) :
    (History.of before).Owes x ∧ ∃ now log flight deadline,
      Delivery.Course ⟨config.userAgent, config.requestTimeout⟩
        (Delivery.start now x.envelope x.endpoint) x log ∧
        x.phase = .flying flight deadline ∧ r = flight.request := by
  -- the state just before the request, and the move that made it
  obtain ⟨_, _, _, d₁, _, -, hb, hs, -⟩ := hr.split he
  obtain ⟨deliveries, index, move, x₀, -, hw, hx, hm, -⟩ := hs.of_requested
  obtain ⟨flight, deadline, hp, hrequest⟩ := hs.phase_of_requested
  obtain ⟨hendpoint, henvelope⟩ := Delivery.move?_frame hm
  have hmem : x₀ ∈ deliveries := List.mem_of_getElem? hx
  constructor
  · -- a move changes neither envelope nor endpoint
    have howes := owes_of_mem hb.follows hw hmem
    unfold History.Owes
    rw [hendpoint, henvelope]
    exact howes
  · -- the delivery was on its course before the move, and the move is its next step
    obtain ⟨hcourses, hsender⟩ := hb.hasCourses
    obtain ⟨now, log, hc⟩ := hcourses.exists_of_mem hw hmem
    rw [hendpoint, henvelope, ← hsender]
    exact ⟨now, _, flight, deadline, hc.move d₁.now move hm, hp, hrequest⟩

/-- The request with which an attempt starts is the one of the delivery. -/
theorem Run.request_of_opens {config : Config} (hr : Run (create config) actions d events)
    (hmem : .requested x time r ∈ events) (ho : x.opens) :
    x.request ⟨config.userAgent, config.requestTimeout⟩ = .ok r := by
  obtain ⟨before, after, he⟩ := List.append_of_mem hmem
  obtain ⟨-, now, log, flight, deadline, hc, hp, rfl⟩ := hr.exists_course_of_requested he
  obtain ⟨first, hfirst, hopening, -⟩ := hc.requests flight deadline hp
  have hzero : flight.redirects = 0 := by simpa [Delivery.opens, hp] using ho
  rw [hopening hzero]
  exact hfirst

/-- A request that is a `POST` is that of the delivery, if only perhaps at another host. -/
theorem Run.resends_of_post {config : Config} (hr : Run (create config) actions d events)
    (hmem : .requested x time r ∈ events) (hpost : r.method = .post) : ∃ first,
      x.request ⟨config.userAgent, config.requestTimeout⟩ = .ok first ∧
        Http.Resends first r := by
  obtain ⟨before, after, he⟩ := List.append_of_mem hmem
  obtain ⟨-, now, log, flight, deadline, hc, hp, rfl⟩ := hr.exists_course_of_requested he
  obtain ⟨first, hfirst, -, hresends⟩ := hc.requests flight deadline hp
  exact ⟨first, hfirst, hresends hpost⟩

/-- In every run of a new dispatcher, the request with which an attempt starts is an authentic one
of an envelope that was queued, to one of those that it goes to; all attempts for one envelope and
one endpoint start with the same request, and all for one envelope have the same body; and where an
attempt is to start, it starts with such a request, unless no request can be made. -/
theorem requests_authentic (config : Config) (actions : List Action)
    (h : (create config).run actions = some (d, events)) :
    (∀ before x time r after, events = before ++ .requested x time r :: after → x.opens →
        (History.of before).Owes x ∧ x.IsAuthentic r) ∧
      (∀ x time r y time' r', .requested x time r ∈ events → .requested y time' r' ∈ events →
        x.opens → y.opens → x.envelope = y.envelope →
          r.body = r'.body ∧ (x.endpoint = y.endpoint → r = r')) ∧
      ∀ index d' now, d.step (.send index) = some (d', now) → ∃ deliveries x,
        d.worker = .delivering deliveries ∧ deliveries[index]? = some x ∧
          (History.of events).Owes x ∧
          ((∃ r, x.request d.sender = .ok r ∧ (x.send d.sender d.now).opens ∧
            now = [.requested (x.send d.sender d.now) d.now r]) ∨
            ((∃ result, x.request d.sender = .error result) ∧ now = [])) := by
  have hr := run_iff.1 h
  refine ⟨?_, ?_, ?_⟩
  · -- what opens an attempt is authentic, whoever is owed it
    intro before x time r after he ho
    have hmem : .requested x time r ∈ events := by simp [he]
    exact ⟨(hr.exists_course_of_requested he).1,
      Delivery.isAuthentic_request (hr.request_of_opens hmem ho)⟩
  · -- both requests are functions of envelope and endpoint
    intro x time r y time' r' hx hy hox hoy hv
    have hrx := hr.request_of_opens hx hox
    have hry := hr.request_of_opens hy hoy
    refine ⟨?_, fun hendpoint => ?_⟩
    · rw [(Delivery.isPostOf_request hrx).2, (Delivery.isPostOf_request hry).2, hv]
    · rw [Delivery.request_congr hendpoint hv, hry] at hrx
      cases hrx
      rfl
  · -- a send posts the request, or has none and is concluded
    intro index d' now hs
    obtain ⟨deliveries, x, y, hw, hx, hy, -, rfl⟩ := updateDelivery_eq_some hs
    have howes := owes_of_mem hr.follows hw (List.mem_of_getElem? hx)
    refine ⟨deliveries, x, hw, hx, howes, ?_⟩
    -- the attempt was due, so that the delivery is the one that is sent
    have hsend : y = x.send d.sender d.now := by
      split at hy
      · split at hy <;> cases hy
        rfl
      · cases hy
    subst hsend
    rcases x.send_cases d.sender d.now with ⟨r, hrequest, ho, he⟩ | ⟨result, hrequest, he⟩
    · exact .inl ⟨r, hrequest, ho, he⟩
    · exact .inr ⟨⟨result, hrequest⟩, he⟩

/-- The session sends an envelope to an endpoint without headers of its own, which is registered to
its end. -/
theorem Session.exists_request : ∃ d events x time r,
    (create Config.default).run script = some (d, events) ∧ .requested x time r ∈ events ∧
      x.opens ∧ x.envelope = sampleEnvelope "first" ∧ x.endpoint.id = ⟨"one"⟩ ∧
      x.endpoint.secret = "secret" ∧ x.endpoint.headers = Dictionary.empty ∧
      d.registry.get? ⟨"one"⟩ = some x.endpoint ∧ d.registry.get? ⟨"first"⟩ = none := by
  -- the run is evaluated once, and what it holds is read off the Boolean
  have hsent : ((create Config.default).run script).any (fun result =>
      result.2.any fun
        | .requested x _ _ => x.opens ∧ x.envelope = sampleEnvelope "first" ∧
          x.endpoint.id = ⟨"one"⟩ ∧ x.endpoint.secret = "secret" ∧
          x.endpoint.headers = Dictionary.empty ∧
          result.1.registry.get? ⟨"one"⟩ = some x.endpoint ∧
          result.1.registry.get? ⟨"first"⟩ = none
        | _ => false) := by
    decide +kernel
  obtain ⟨⟨d, events⟩, hrun, hevents⟩ := (Option.any_eq_true _ _).1 hsent
  obtain ⟨o, hmem, ho⟩ := List.any_eq_true.1 hevents
  cases o with
  | requested x time r => exact ⟨d, events, x, time, r, hrun, hmem, of_decide_eq_true ho⟩
  | _ => cases ho

/-- In the session, a receiver who knows the secret accepts a request. -/
theorem session_authentic : ∃ d events x time r,
    (create Config.default).run Session.script = some (d, events) ∧
      .requested x time r ∈ events ∧ x.envelope = sampleEnvelope "first" ∧
      x.endpoint.secret = "secret" ∧
      verifyRequest r.headers.entries (sampleEnvelope "first").canonicalPayload
        (Text.utf8 "secret") = .ok () := by
  obtain ⟨d, events, x, time, r, hrun, hmem, ho, hv, -, hsecret, hheaders, -⟩ :=
    Session.exists_request
  obtain ⟨before, after, he⟩ := List.append_of_mem hmem
  obtain ⟨hauthentic, -, -⟩ := requests_authentic Config.default Session.script hrun
  obtain ⟨-, -, hverify⟩ := hauthentic before x time r after he ho
  have hok := hverify (Endpoint.lacks_of_headers_eq_empty hheaders signatureHeader)
  rw [hv, hsecret] at hok
  exact ⟨d, events, x, time, r, hrun, hmem, hv, hsecret, hok⟩

end Dispatcher

end Webhook
