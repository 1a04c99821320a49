import Webhook.Dispatcher.Interface
import Webhook.Proofs.Dispatcher.Accounting
import Webhook.Proofs.Dispatcher.Authentic

/-!
# Requests that come back in

A dispatcher looks in a request that comes in for the identifier of an endpoint, and checks the
signature under the secret of that endpoint. A request that goes out has the identifier of the
envelope in the same header. So a dispatcher that knows the endpoint accepts every `POST` that went
out to it, once the identifier of the endpoint has been added; with the headers as they went out, it
does so only if the envelope has the identifier of the endpoint (`inbound_of_posted`). A request
that is not accepted as it went out is that of `session_refused`.
-/

namespace Webhook.Dispatcher

variable {d d' : Dispatcher} {actions : List Action} {events : List Occurrence} {x : Delivery}
  {time : Nat} {r : Http.Request}

/-- The decision on a payload with a signature and perhaps an identifier. -/
theorem verifyInbound_eq (d : Dispatcher) {headers : HeaderList} {signature : String}
    (hs : (SignatureHeaders.ofHeaders headers).signature = some signature) (payload : Bytes) :
    d.verifyInbound headers payload =
      match (SignatureHeaders.ofHeaders headers).webhookId with
      | none => .error .missingWebhookId
      | some id =>
        match d.registry.get? ⟨id⟩ with
        | none => .error .unknownEndpoint
        | some e =>
          if Signature.verify (Text.utf8 e.secret) payload signature then .ok e.id
          else .error .invalidSignature := by
  unfold verifyInbound
  simp only [hs]
  -- without an identifier, and with one that is registered or not
  cases (SignatureHeaders.ofHeaders headers).webhookId with
  | none => rfl
  | some id =>
    simp only
    cases d.registry.get? ⟨id⟩ <;> rfl

/-- The headers of a `POST` that has gone out, as they are read where it comes in. -/
theorem Run.ofHeaders_of_post {config : Config} (hr : Run (create config) actions d events)
    (hmem : .requested x time r ∈ events) (hpost : r.method = .post)
    (hs : x.endpoint.Lacks signatureHeader) (hi : x.endpoint.Lacks idHeader) :
    r.body = some x.envelope.canonicalPayload ∧ SignatureHeaders.ofHeaders r.headers.entries =
      ⟨some (Signature.compute (Text.utf8 x.endpoint.secret) x.envelope.canonicalPayload),
        if isHeaderValue x.envelope.id.text then some x.envelope.id.text else none⟩ := by
  obtain ⟨first, hfirst, hresends⟩ := hr.resends_of_post hmem hpost
  have hl : r.headers.Lowered := hresends.lowered (Delivery.lowered_request hfirst)
  refine ⟨hresends.body.trans (Delivery.isPostOf_request hfirst).2, ?_⟩
  -- neither header is one that another host may not see
  have hsignature := hresends.headers (Text.lower signatureHeader) (by decide)
  have hid := hresends.headers (Text.lower idHeader) (by decide)
  rw [Delivery.get?_signature hfirst hs, ← HeaderMap.lastValue?_entries hl,
    ← SignatureHeaders.signature_ofHeaders] at hsignature
  rw [Delivery.get?_id hfirst hi, ← HeaderMap.lastValue?_entries hl,
    ← SignatureHeaders.webhookId_ofHeaders] at hid
  rw [← hsignature, ← hid]

/-- A payload with the signature of a registered endpoint is accepted as that endpoint's exactly
when it comes with the identifier of the endpoint. -/
theorem Run.verifyInbound_eq_ok_iff {config : Config} (hr : Run (create config) actions d events)
    {headers : HeaderList} {payload : Bytes} {id : EndpointId} {e : Endpoint}
    (hs : (SignatureHeaders.ofHeaders headers).signature =
      some (Signature.compute (Text.utf8 e.secret) payload))
    (he : d.registry.get? id = some e) :
    d.verifyInbound headers payload = .ok id ↔
      (SignatureHeaders.ofHeaders headers).webhookId = some id.text := by
  have hkeyed := hr.recorded.keyed
  rw [verifyInbound_eq d hs]
  constructor
  · intro hok
    split at hok
    · cases hok
    next text hid =>
      rw [hid]
      split at hok
      · cases hok
      next other hother =>
        -- the endpoint that is found has the identifier that it was looked up by
        have hkey := hkeyed.id_eq _ (Registry.mem_of_get? hother)
        split at hok
        · rw [Except.ok.injEq, hkey] at hok
          rw [← hok]
        · cases hok
  · intro hid
    rw [hid]
    simp only [he, Signature.verify_compute, if_true]
    rw [hkeyed.id_eq _ (Registry.mem_of_get? he)]

/-- In every run of a new dispatcher, a `POST` that goes out to an endpoint without headers of its
own for signature and identifier has the canonical payload as its body. A dispatcher on which an
endpoint with the same identifier and secret is registered accepts that body as the endpoint's, with
the headers that went out and the identifier of the endpoint after them. With those headers alone it
does so exactly if the envelope has the identifier of the endpoint; and if no endpoint has the
identifier of the envelope, it takes the endpoint for unknown. -/
theorem inbound_of_posted (config : Config) (actions : List Action)
    (h : (create config).run actions = some (d, events)) (hmem : .requested x time r ∈ events)
    (hpost : r.method = .post) (hs : x.endpoint.Lacks signatureHeader)
    (hi : x.endpoint.Lacks idHeader) :
    r.body = some x.envelope.canonicalPayload ∧
      ∀ config' actions' d' events' e, (create config').run actions' = some (d', events') →
        d'.registry.get? x.endpoint.id = some e → e.secret = x.endpoint.secret →
        d'.verifyInbound (r.headers.entries ++ [(idHeader, x.endpoint.id.text)])
            x.envelope.canonicalPayload = .ok x.endpoint.id ∧
          (d'.verifyInbound r.headers.entries x.envelope.canonicalPayload = .ok x.endpoint.id ↔
            isHeaderValue x.envelope.id.text ∧ x.envelope.id.text = x.endpoint.id.text) ∧
          (isHeaderValue x.envelope.id.text → d'.registry.get? ⟨x.envelope.id.text⟩ = none →
            d'.verifyInbound r.headers.entries x.envelope.canonicalPayload =
              .error .unknownEndpoint) := by
  -- the receiver reads the signature, and the identifier of the envelope
  obtain ⟨hbody, hheaders⟩ := (run_iff.1 h).ofHeaders_of_post hmem hpost hs hi
  refine ⟨hbody, ?_⟩
  intro config' actions' d' events' e h' he hsecret
  have hr' := run_iff.1 h'
  rw [← hsecret] at hheaders
  have hsignature := congrArg SignatureHeaders.signature hheaders
  have hid := congrArg SignatureHeaders.webhookId hheaders
  refine ⟨?_, ?_, ?_⟩
  · -- the identifier that comes last counts, and is not taken for a signature
    have hname : Text.sameIgnoringCase idHeader signatureHeader = false := by decide
    have hsame : Text.sameIgnoringCase idHeader idHeader = true := by decide
    have hadded : SignatureHeaders.ofHeaders
        (r.headers.entries ++ [(idHeader, x.endpoint.id.text)]) =
          { SignatureHeaders.ofHeaders r.headers.entries with
            webhookId := some x.endpoint.id.text } := by
      rw [SignatureHeaders.ofHeaders_concat, SignatureHeaders.add, hname, hsame]
      rfl
    refine (hr'.verifyInbound_eq_ok_iff ?_ he).2 ?_
    · rw [hadded]
      exact hsignature
    · rw [hadded]
  · rw [hr'.verifyInbound_eq_ok_iff hsignature he, hid, Option.ite_none_right_eq_some,
      Option.some.injEq]
  · -- the identifier read names no endpoint
    intro hlegal hnone
    rw [verifyInbound_eq d' hsignature, hid, if_pos hlegal]
    simp only [hnone]

/-- In the session, a request is accepted with the identifier of the endpoint after its headers. -/
theorem session_inbound : ∃ d events x time r,
    (create Config.default).run Session.script = some (d, events) ∧
      .requested x time r ∈ events ∧ x.endpoint.id = ⟨"one"⟩ ∧
      d.verifyInbound (r.headers.entries ++ [(idHeader, "one")]) x.envelope.canonicalPayload =
        .ok ⟨"one"⟩ := by
  obtain ⟨d, events, x, time, r, hrun, hmem, ho, -, hid, -, hheaders, hregistered, -⟩ :=
    Session.exists_request
  -- the request opens an attempt, and so is a post
  have hpost : r.method = .post :=
    (Delivery.isPostOf_request ((run_iff.1 hrun).request_of_opens hmem ho)).1
  obtain ⟨-, hinbound⟩ := inbound_of_posted Config.default Session.script hrun hmem hpost
    (Endpoint.lacks_of_headers_eq_empty hheaders signatureHeader)
    (Endpoint.lacks_of_headers_eq_empty hheaders idHeader)
  rw [← hid] at hregistered
  obtain ⟨hok, -, -⟩ := hinbound Config.default Session.script d events x.endpoint hrun
    hregistered rfl
  rw [hid] at hok
  exact ⟨d, events, x, time, r, hrun, hmem, hid, hok⟩

/-- In the session, a `POST` of a payload goes out to an endpoint without headers of its own, and no
endpoint is found for it where it comes in, though this one is registered. -/
theorem session_refused : ∃ d events x time r,
    (create Config.default).run Session.script = some (d, events) ∧
      .requested x time r ∈ events ∧ r.method = .post ∧
      r.body = some x.envelope.canonicalPayload ∧ x.endpoint.headers = Dictionary.empty ∧
      d.registry.get? x.endpoint.id = some x.endpoint ∧
      d.verifyInbound r.headers.entries x.envelope.canonicalPayload = .error .unknownEndpoint := by
  obtain ⟨d, events, x, time, r, hrun, hmem, ho, hv, hid, -, hheaders, hregistered, hnone⟩ :=
    Session.exists_request
  have hr := run_iff.1 hrun
  have hpost : r.method = .post := (Delivery.isPostOf_request (hr.request_of_opens hmem ho)).1
  obtain ⟨hbody, hread⟩ := hr.ofHeaders_of_post hmem hpost
    (Endpoint.lacks_of_headers_eq_empty hheaders signatureHeader)
    (Endpoint.lacks_of_headers_eq_empty hheaders idHeader)
  refine ⟨d, events, x, time, r, hrun, hmem, hpost, hbody, hheaders, ?_, ?_⟩
  · rw [hid]
    exact hregistered
  · -- the identifier is that of the envelope
    have hfirst : x.envelope.id.text = "first" := by
      rw [hv]
      rfl
    have hlegal : isHeaderValue "first" = true := by decide
    rw [verifyInbound_eq d (congrArg SignatureHeaders.signature hread), hread, hfirst,
      if_pos hlegal]
    simp only [hnone]

end Webhook.Dispatcher
