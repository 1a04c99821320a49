import Webhook.Proofs.Dispatcher.Inbound

/-!
# Which requests are let in

`inbound_decision` says what a dispatcher decides on a request that comes in, in any state that it
can come to, for any headers and any body. Two headers count, the last one of each name, and of the
registry the secret of one endpoint. So nothing else can change the answer: no other header, no
other endpoint, and not whether the endpoint is enabled. The decision reads the state and does not
give another one.
-/

namespace Webhook

/-- The value of the last header with a name, up to the case of letters. -/
def lastNamed (name : String) (headers : HeaderList) : Option String :=
  lastValue? (fun h => Text.sameIgnoringCase h.1 name) headers

/-- The secret of the endpoint with an identifier. -/
def Registry.secret? (r : Registry) (id : EndpointId) : Option String :=
  (r.get? id).map Endpoint.secret

namespace Dispatcher

variable {d d' : Dispatcher} {actions : List Action} {events : List Occurrence}
  {headers headers' : HeaderList} {body : Bytes}

/-! ## What the decision depends on -/

/-- The decision, from the two headers and the secret that belongs to the identifier. -/
theorem verifyInbound_eq_secret? (hk : d.registry.IsKeyed) (headers : HeaderList) (body : Bytes) :
    d.verifyInbound headers body =
      match lastNamed signatureHeader headers, lastNamed idHeader headers with
      | none, _ => .error .missingSignature
      | some _, none => .error .missingWebhookId
      | some text, some id =>
        match d.registry.secret? ⟨id⟩ with
        | none => .error .unknownEndpoint
        | some secret =>
          if Signature.verify (Text.utf8 secret) body text then .ok ⟨id⟩
          else .error .invalidSignature := by
  unfold lastNamed
  rw [← SignatureHeaders.signature_ofHeaders, ← SignatureHeaders.webhookId_ofHeaders]
  cases hs : (SignatureHeaders.ofHeaders headers).signature with
  | none =>
    unfold verifyInbound
    simp only [hs]
    rfl
  | some text =>
    rw [verifyInbound_eq d hs]
    cases (SignatureHeaders.ofHeaders headers).webhookId with
    | none => rfl
    | some id =>
      simp only [Registry.secret?]
      cases he : d.registry.get? ⟨id⟩ with
      | none => rfl
      | some e =>
        -- the endpoint has the identifier that it is found by
        have hid : e.id = ⟨id⟩ := hk.id_eq _ (Registry.mem_of_get? he)
        simp only [Option.map_some, hid]

/-- Requests that agree in the two headers get the same decision where the endpoint that they name
has the same secret. -/
theorem verifyInbound_congr (hk : d.registry.IsKeyed) (hk' : d'.registry.IsKeyed)
    (hs : lastNamed signatureHeader headers' = lastNamed signatureHeader headers)
    (hi : lastNamed idHeader headers' = lastNamed idHeader headers)
    (hsecret : ∀ text, lastNamed idHeader headers = some text →
      d'.registry.secret? ⟨text⟩ = d.registry.secret? ⟨text⟩) (body : Bytes) :
    d'.verifyInbound headers' body = d.verifyInbound headers body := by
  -- the decision looks at two headers and at one secret only
  rw [verifyInbound_eq_secret? hk, verifyInbound_eq_secret? hk', hs, hi]
  cases lastNamed signatureHeader headers with
  | none => rfl
  | some _ =>
    cases hid : lastNamed idHeader headers with
    | none => rfl
    | some text => simp only [hsecret text hid]

/-! ## The right decision -/

/-- The text of a header is the signature of a body under the secret of an endpoint, once it is
trimmed and in lower case. -/
def IsSignedBy (text : String) (body : Bytes) (e : Endpoint) : Prop :=
  Text.lower (Text.trim text) = Signature.compute (Text.utf8 e.secret) body

/-- An answer to a request with a body, which names an identifier and has a signature where it has
them, is the right one when these endpoints are registered. -/
structure Decides (answer : Except VerificationError EndpointId) (signature id : Option String)
    (endpoints : List Endpoint) (body : Bytes) : Prop where
  missingSignature : answer = .error .missingSignature ↔ signature = none
  missingWebhookId : answer = .error .missingWebhookId ↔ signature ≠ none ∧ id = none
  unknownEndpoint : answer = .error .unknownEndpoint ↔ signature ≠ none ∧
    ∃ text, id = some text ∧ ∀ e ∈ endpoints, e.id ≠ ⟨text⟩
  ok : ∀ origin, answer = .ok origin ↔ ∃ text e, signature = some text ∧ id = some origin.text ∧
    e ∈ endpoints ∧ e.id = origin ∧ IsSignedBy text body e
  invalidSignature : answer = .error .invalidSignature ↔ ∃ text e, signature = some text ∧
    id = some e.id.text ∧ e ∈ endpoints ∧ ¬IsSignedBy text body e

namespace Decides

variable {endpoints : List Endpoint} {e : Endpoint} {text id : String}

/-- Where no endpoint has the identifier, it is unknown. -/
theorem of_unknown (hnone : ∀ e ∈ endpoints, e.id ≠ ⟨id⟩) :
    Decides (.error .unknownEndpoint) (some text) (some id) endpoints body := by
  refine ⟨by simp, by simp, by simpa using hnone, ?_, ?_⟩
  · intro origin
    simp only [reduceCtorEq, false_iff]
    rintro ⟨-, e, -, hid, he, rfl, -⟩
    exact hnone e he (by rw [Option.some.inj hid])
  · simp only [Except.error.injEq, reduceCtorEq, false_iff]
    rintro ⟨-, e, -, hid, he, -⟩
    exact hnone e he (by rw [Option.some.inj hid])

/-- Where one endpoint has the identifier, it is accepted if it signed the body. -/
theorem of_signed (he : e ∈ endpoints) (hone : ∀ e' ∈ endpoints, e'.id = e.id → e' = e)
    (hsigned : IsSignedBy text body e) :
    Decides (.ok e.id) (some text) (some e.id.text) endpoints body := by
  refine ⟨by simp, by simp, ?_, ?_, ?_⟩
  · simp only [reduceCtorEq, false_iff]
    rintro ⟨-, id, hid, hnone⟩
    exact hnone e he (by rw [← Option.some.inj hid])
  · intro origin
    constructor
    · intro hok
      cases hok
      exact ⟨text, e, rfl, rfl, he, rfl, hsigned⟩
    · rintro ⟨-, -, -, hid, -⟩
      exact congrArg Except.ok (congrArg EndpointId.mk (Option.some.inj hid))
  · simp only [reduceCtorEq, false_iff]
    -- the endpoint of that identifier is this one, which has signed
    rintro ⟨text', e', htext, hid, he', hunsigned⟩
    rw [hone e' he' (congrArg EndpointId.mk (Option.some.inj hid).symm),
      ← Option.some.inj htext] at hunsigned
    exact hunsigned hsigned

/-- Where one endpoint has the identifier, the signature is refused if it did not sign the body. -/
theorem of_unsigned (he : e ∈ endpoints) (hone : ∀ e' ∈ endpoints, e'.id = e.id → e' = e)
    (hunsigned : ¬IsSignedBy text body e) :
    Decides (.error .invalidSignature) (some text) (some e.id.text) endpoints body := by
  refine ⟨by simp, by simp, ?_, ?_, ?_⟩
  · simp only [Except.error.injEq, reduceCtorEq, false_iff]
    rintro ⟨-, id, hid, hnone⟩
    exact hnone e he (by rw [← Option.some.inj hid])
  · intro origin
    simp only [reduceCtorEq, false_iff]
    -- the endpoint of that identifier is this one, which has not signed
    rintro ⟨text', e', htext, hid, he', rfl, hsigned⟩
    rw [hone e' he' (congrArg EndpointId.mk (Option.some.inj hid).symm),
      ← Option.some.inj htext] at hsigned
    exact hunsigned hsigned
  · simp only [true_iff]
    exact ⟨text, e, rfl, rfl, he, hunsigned⟩

end Decides

/-- With a keyed registry, the decision is the right one. -/
theorem decides_verifyInbound (hk : d.registry.IsKeyed) (headers : HeaderList) (body : Bytes) :
    Decides (d.verifyInbound headers body) (lastNamed signatureHeader headers)
      (lastNamed idHeader headers) d.registry.list body := by
  rw [verifyInbound_eq_secret? hk]
  cases lastNamed signatureHeader headers with
  | none => exact ⟨by simp, by simp, by simp, by simp, by simp⟩
  | some text =>
    cases lastNamed idHeader headers with
    | none => exact ⟨by simp, by simp, by simp, by simp, by simp⟩
    | some id =>
      simp only [Registry.secret?]
      cases hfound : d.registry.get? ⟨id⟩ with
      | none =>
        refine .of_unknown fun e he hid => ?_
        rw [hk.get?_eq_some_iff_list.2 ⟨he, hid⟩] at hfound
        cases hfound
      | some e =>
        obtain ⟨he, hid⟩ := hk.get?_eq_some_iff_list.1 hfound
        obtain rfl : e.id.text = id := congrArg EndpointId.text hid
        -- no other endpoint has this identifier, because the registry is keyed
        have hone : ∀ e' ∈ d.registry.list, e'.id = e.id → e' = e := by
          intro e' he' hid'
          rw [hk.get?_eq_some_iff_list.2 ⟨he', hid'⟩] at hfound
          exact Option.some.inj hfound
        simp only [Option.map_some]
        by_cases hsigned : IsSignedBy text body e
        · rw [if_pos (Signature.verify_iff.2 hsigned)]
          exact .of_signed he hone hsigned
        · rw [if_neg fun hverified => hsigned (Signature.verify_iff.1 hverified)]
          exact .of_unsigned he hone hsigned

/-- In every state that a run of a new dispatcher comes to, the decision on a request is the right
one, for all headers and bodies: the last header of each of the two names counts, and then the
endpoint that is registered with the identifier. In every other such state, and with other headers,
the decision is the same, if the two headers and the secret of that endpoint are. -/
theorem inbound_decision (config : Config) (actions : List Action)
    (h : (create config).run actions = some (d, events)) (headers : HeaderList) (body : Bytes) :
    Decides (d.verifyInbound headers body) (lastNamed signatureHeader headers)
        (lastNamed idHeader headers) d.registry.list body ∧
      ∀ config' actions' d' events' headers',
        (create config').run actions' = some (d', events') →
        lastNamed signatureHeader headers' = lastNamed signatureHeader headers →
        lastNamed idHeader headers' = lastNamed idHeader headers →
        (∀ text, lastNamed idHeader headers = some text →
          d'.registry.secret? ⟨text⟩ = d.registry.secret? ⟨text⟩) →
        d'.verifyInbound headers' body = d.verifyInbound headers body := by
  -- the registry of a run is keyed, which is all that the decision needs to know
  have hk := (run_iff.1 h).recorded.keyed
  refine ⟨decides_verifyInbound hk headers body, ?_⟩
  intro config' actions' d' events' headers' h' hs hi hsecret
  exact verifyInbound_congr hk (run_iff.1 h').recorded.keyed hs hi hsecret body

namespace Session

/-- An endpoint that gets another secret and is disabled after its registration. -/
def changed : List Action :=
  [register "one", .configure (.update ⟨"one"⟩
    { Endpoint.Update.setEnabled false with secret := some "changed" })]

/-- Headers that repeat both names in letters of either case. The signature that counts is that of
the body `{}` under the secret `changed`, in capitals and with blanks around it. -/
def repeated : HeaderList :=
  [("x-webhook-signature", "none"), ("X-WEBHOOK-ID", "two"), ("x-webhook-id", "one"),
    ("X-Webhook-Signature",
      " AD83EC9E691BB0C749C810C42028B6D5FC7A1BD25937194161F26C9B07D39722\t")]

/-- The request with these headers is let in under the new secret, though the endpoint is disabled;
so it is when there is another endpoint, which another header names. -/
theorem inbound_decision_changed : ∃ d events d' events',
    (create Config.default).run changed = some (d, events) ∧
      (∃ e ∈ d.registry.list, e.enabled = false ∧ e.secret = "changed") ∧
      (create Config.default).run (changed ++ [register "two"]) = some (d', events') ∧
      d'.registry.list.length = 2 ∧
      d.verifyInbound repeated (Text.utf8 "\x7b\x7d") = .ok ⟨"one"⟩ ∧
      d'.verifyInbound (("X-Other", "two") :: repeated) (Text.utf8 "\x7b\x7d") =
        .ok ⟨"one"⟩ := by
  -- both runs are evaluated together
  have hruns : ((create Config.default).run changed).any fun s =>
      ((create Config.default).run (changed ++ [register "two"])).any fun s' =>
        s'.1.registry.list.length = 2 ∧
        s'.1.registry.secret? ⟨"one"⟩ = s.1.registry.secret? ⟨"one"⟩ ∧
        ∃ e ∈ s.1.registry.list, e.enabled = false ∧ e.id = ⟨"one"⟩ ∧ e.secret = "changed" := by
    decide +kernel
  obtain ⟨⟨d, events⟩, hd, hruns⟩ := (Option.any_eq_true _ _).1 hruns
  obtain ⟨⟨d', events'⟩, hd', hruns⟩ := (Option.any_eq_true _ _).1 hruns
  obtain ⟨hlength, hsecret, e, he, henabled, hid, hnew⟩ := of_decide_eq_true hruns
  obtain ⟨hdecides, hsame⟩ := inbound_decision Config.default changed hd repeated
    (Text.utf8 "\x7b\x7d")
  -- the signature under the secret the endpoint was given last, in another case and padded
  have hsigned : Text.lower (Text.trim
      " AD83EC9E691BB0C749C810C42028B6D5FC7A1BD25937194161F26C9B07D39722\t") =
        Signature.compute (Text.utf8 "changed") (Text.utf8 "\x7b\x7d") := by
    decide +kernel
  have hok : d.verifyInbound repeated (Text.utf8 "\x7b\x7d") = .ok ⟨"one"⟩ :=
    (hdecides.ok ⟨"one"⟩).2
      ⟨_, e, by decide +kernel, by decide +kernel, he, hid, hnew ▸ hsigned⟩
  refine ⟨d, events, d', events', hd, ⟨e, he, henabled, hnew⟩, hd', hlength, hok, ?_⟩
  rw [hsame _ _ d' events' (("X-Other", "two") :: repeated) hd' (by decide +kernel)
    (by decide +kernel) ?_]
  · exact hok
  · intro text htext
    have hone : lastNamed idHeader repeated = some "one" := by decide +kernel
    rw [hone] at htext
    rw [← Option.some.inj htext]
    exact hsecret

end Session

end Dispatcher

end Webhook
