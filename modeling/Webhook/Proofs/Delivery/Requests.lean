import Webhook.Proofs.Delivery.Redirects
import Webhook.Proofs.Http.Headers
import Webhook.Proofs.Signature

/-!
# The requests of a delivery

Every attempt of a delivery starts with the same request: the envelope, the endpoint and the sender
determine it (`Delivery.request`). A redirect that keeps the method sends it again, perhaps without
the headers that only its own host may see (`Http.Resends`); any other turns it into a `GET`. This
is an invariant of a course (`Delivery.Course.requests`).

The headers that a receiver looks for are among those of the request, unless the endpoint has
headers of its own with these names (`Delivery.get?_signature`, `Delivery.get?_id`).
-/

namespace Webhook

namespace Endpoint

/-- The endpoint has no header of its own with a name, up to the case of letters. -/
def Lacks (e : Endpoint) (name : String) : Prop :=
  ∀ own ∈ e.headers.entries, Text.sameIgnoringCase own.1 name = false

/-- An endpoint without headers sets none of the defaults itself. -/
theorem lacks_of_headers_eq_empty {e : Endpoint} (h : e.headers = Dictionary.empty)
    (name : String) : e.Lacks name := by
  intro own hown
  rw [h] at hown
  cases hown

end Endpoint

/-! ## The headers of a delivery -/

/-- The text of bytes may be the value of a header. -/
theorem isHeaderValue_encode (bytes : Bytes) : isHeaderValue (Text.Hex.encode bytes) = true := by
  unfold isHeaderValue
  rw [List.all_eq_true]
  intro c hc
  obtain ⟨n, hn, rfl⟩ := Text.Hex.exists_digit hc
  obtain ⟨hfirst, hlast⟩ := Text.Hex.toNat_digit hn
  have hprintable : 0x20 ≤ (Text.Hex.digit n).toNat ∧ (Text.Hex.digit n).toNat ≠ 0x7F := by omega
  simp [hprintable]

section Headers

variable {userAgent signature name : String} {envelope : Envelope} {endpoint : Endpoint}

/-- The names of the headers of a delivery are in lower case. -/
theorem lowered_deliveryHeaders :
    (deliveryHeaders userAgent signature envelope endpoint).Lowered :=
  HeaderMap.lowered_empty.foldl_set _

/-- The names of the headers that every request has, in lower case. -/
theorem names_defaultHeaders :
    (defaultHeaders userAgent signature envelope).map (fun h => Text.lower h.1) =
      ["content-type", "x-webhook-signature", "x-webhook-event", "x-webhook-id",
        "x-webhook-timestamp", "user-agent"] := by
  have hnames : ["content-type", signatureHeader, eventHeader, idHeader, timestampHeader,
      "user-agent"].map Text.lower = ["content-type", "x-webhook-signature", "x-webhook-event",
        "x-webhook-id", "x-webhook-timestamp", "user-agent"] := by
    decide
  exact hnames

/-- Each header that every request has keeps its value, unless the endpoint sets the header itself
or the value is not that of a header. -/
theorem get?_deliveryHeaders {h : String × String}
    (hmem : h ∈ defaultHeaders userAgent signature envelope) (hl : endpoint.Lacks h.1) :
    (deliveryHeaders userAgent signature envelope endpoint).get? (Text.lower h.1) =
      if HeaderMap.isLegal h then some h.2 else none := by
  -- none of the endpoint's headers has the name, and of the others this one alone
  have hown : (endpoint.headers.entries.filter fun own =>
      HeaderMap.isLegal own && Text.lower own.1 == Text.lower h.1) = [] := by
    rw [List.filter_eq_nil_iff]
    intro own hmem
    have hname : (Text.lower own.1 == Text.lower h.1) = false := hl own hmem
    simp [hname]
  have hnodup : ((defaultHeaders userAgent signature envelope).map
      fun h => Text.lower h.1).Nodup := by
    rw [names_defaultHeaders]
    decide
  rw [deliveryHeaders, HeaderMap.get?_foldl_set, ← HeaderMap.lastValue?_of_mem hnodup hmem,
    lastValue?, lastValue?, List.filter_append, hown, List.append_nil]

/-- The signature is the text of bytes, so that the value of its header is one. -/
theorem get?_signature_deliveryHeaders (bytes : Bytes) (hl : endpoint.Lacks signatureHeader) :
    (deliveryHeaders userAgent (Text.Hex.encode bytes) envelope endpoint).get?
      (Text.lower signatureHeader) = some (Text.Hex.encode bytes) := by
  have hlegal : HeaderMap.isLegal (signatureHeader, Text.Hex.encode bytes) = true := by
    have hname : isHeaderName signatureHeader = true := by decide
    simp [HeaderMap.isLegal, hname, isHeaderValue_encode]
  have hmem : (signatureHeader, Text.Hex.encode bytes) ∈
      defaultHeaders userAgent (Text.Hex.encode bytes) envelope := by
    simp [defaultHeaders]
  rw [get?_deliveryHeaders hmem hl, if_pos hlegal]

/-- The identifier in the headers is that of the envelope. -/
theorem get?_id_deliveryHeaders (hl : endpoint.Lacks idHeader) :
    (deliveryHeaders userAgent signature envelope endpoint).get? (Text.lower idHeader) =
      if isHeaderValue envelope.id.text then some envelope.id.text else none := by
  have hlegal : HeaderMap.isLegal (idHeader, envelope.id.text) =
      isHeaderValue envelope.id.text := by
    have hname : isHeaderName idHeader = true := by decide
    simp [HeaderMap.isLegal, hname]
  have hmem : (idHeader, envelope.id.text) ∈ defaultHeaders userAgent signature envelope := by
    simp [defaultHeaders]
  rw [get?_deliveryHeaders hmem hl, hlegal]

end Headers

/-! ## Requests -/

namespace Http

variable {r r' first : Request}

/-- The headers of a `POST` are those given, but for the user name and the password in the url. -/
theorem Request.get?_post (url : Url) (headers : HeaderMap) (body : Bytes) {key : String}
    (hkey : key ≠ "authorization") :
    (Request.post url headers body).headers.get? key = headers.get? key := by
  unfold Request.post
  split
  · rfl
  next username password _ =>
    have hlower : Text.lower "authorization" = "authorization" := by decide
    -- what the url brings in has another name
    have hbase : (HeaderMap.set Dictionary.empty "authorization"
        (basicCredentials username password)).get? key = none := by
      unfold HeaderMap.set
      split
      · rw [Dictionary.get?_insert, hlower, if_neg hkey]
        rfl
      · rfl
    rw [Dictionary.get?_foldl_insert, hbase, Option.or_none]

/-- The names of the headers of a `POST` are in lower case if those it is given are. -/
theorem Request.lowered_post (url : Url) {headers : HeaderMap} (hl : headers.Lowered)
    (body : Bytes) : (Request.post url headers body).headers.Lowered := by
  unfold Request.post
  split
  · exact hl
  · exact hl.foldl_insert (HeaderMap.lowered_empty.set _ _)

/-- A request is one sent again, perhaps to another host, which does not see all headers. -/
structure Resends (first r : Request) : Prop where
  method : r.method = first.method
  body : r.body = first.body
  lowered : first.headers.Lowered → r.headers.Lowered
  headers : ∀ key ∉ sensitiveHeaders, r.headers.get? key = first.headers.get? key

/-- A request resends itself. -/
theorem Resends.refl (r : Request) : Resends r r := ⟨rfl, rfl, id, fun _ _ => rfl⟩

/-- A request that is resent is so at another url too. -/
theorem Resends.moveTo (h : Resends first r) (url : Url) : Resends first (r.moveTo url) := by
  unfold Request.moveTo
  split
  · exact ⟨h.method, h.body, h.lowered, h.headers⟩
  · refine ⟨h.method, h.body, fun hl => (h.lowered hl).without _, ?_⟩
    intro key hkey
    rw [← h.headers key hkey]
    exact HeaderMap.get?_without r.headers hkey

/-- A request that a redirect leaves a `POST` has been one, and is the same. -/
theorem eq_of_redirected? {status : Nat} (h : redirected? status r = some r')
    (hpost : r'.method = .post) : r' = r := by
  unfold redirected? at h
  split at h
  · -- a 301, 302 or 303 leaves a `GET`
    cases h
    cases hpost
  · split at h <;> cases h
    rfl

/-- A flight goes on only after a redirect, with the request that this leaves, moved. -/
theorem Flight.of_onward {f next : Flight} {reply : Reply} (h : f.receive reply = .onward next) :
    ∃ status r url, redirected? status f.request = some r ∧ next.request = r.moveTo url ∧
      next.redirects = f.redirects + 1 := by
  unfold Flight.receive at h
  -- only a response with a target that can be sent to is followed
  split at h
  · cases h
  next status location =>
    split at h
    next r url hr ht =>
      unfold follow at h
      split at h <;> cases h
      exact ⟨status, r, url, hr, rfl, rfl⟩
    · cases h
    · cases h

end Http

namespace Delivery

open Http

variable {x y : Delivery} {sender : Sender} {now : Nat} {log : List (List Exchange)}
  {r : Request}

section Request

variable (h : x.request sender = .ok r)

include h

/-- The request of an attempt is a `POST` to a url that can be sent. -/
theorem request_eq_ok : ∃ url, r = Request.post url
    (deliveryHeaders sender.userAgent
      (Signature.compute (Text.utf8 x.endpoint.secret) x.envelope.canonicalPayload)
      x.envelope x.endpoint) x.envelope.canonicalPayload := by
  unfold request at h
  split at h
  · cases h
  next url _ =>
    simp only at h
    split at h <;> cases h
    exact ⟨url, rfl⟩

/-- The request of an attempt is a `POST` of the payload. -/
theorem isPostOf_request : IsPostOf x.envelope.canonicalPayload r := by
  obtain ⟨url, rfl⟩ := request_eq_ok h
  exact Request.post_eq ..

/-- The names of the headers of a request are in lower case. -/
theorem lowered_request : r.headers.Lowered := by
  obtain ⟨url, rfl⟩ := request_eq_ok h
  exact Request.lowered_post url lowered_deliveryHeaders _

/-- The request of an attempt is signed. -/
theorem get?_signature (hl : x.endpoint.Lacks signatureHeader) :
    r.headers.get? (Text.lower signatureHeader) =
      some (Signature.compute (Text.utf8 x.endpoint.secret) x.envelope.canonicalPayload) := by
  obtain ⟨url, rfl⟩ := request_eq_ok h
  rw [Request.get?_post url _ _ (by decide)]
  exact get?_signature_deliveryHeaders _ hl

/-- The request of an attempt has the identifier of the envelope. -/
theorem get?_id (hl : x.endpoint.Lacks idHeader) :
    r.headers.get? (Text.lower idHeader) =
      if isHeaderValue x.envelope.id.text then some x.envelope.id.text else none := by
  obtain ⟨url, rfl⟩ := request_eq_ok h
  rw [Request.get?_post url _ _ (by decide)]
  exact get?_id_deliveryHeaders hl

end Request

/-! ## The invariant -/

/-- The request under way is the one with which its attempt has started. -/
def opens (x : Delivery) : Bool :=
  match x.phase with
  | .flying flight _ => flight.redirects = 0
  | _ => false

/-- A flight has begun with the request of the delivery. As long as it is a `POST`, this is the
request under way, if only perhaps at another host. -/
def Flies (x : Delivery) (sender : Sender) (flight : Flight) : Prop :=
  ∃ first, x.request sender = .ok first ∧
    (flight.redirects = 0 → flight.request = first) ∧
    (flight.request.method = .post → Resends first flight.request)

/-- The flight that is under way, if one is, has begun with the request of the delivery. -/
def Requests (x : Delivery) (sender : Sender) : Prop :=
  ∀ flight deadline, x.phase = .flying flight deadline → x.Flies sender flight

/-- A conclusion leaves no request under way. -/
theorem requests_conclude (x : Delivery) (sender : Sender) (now : Nat) (result : AttemptResult) :
    (x.conclude now result).Requests sender := by
  intro flight deadline hp
  rcases conclude_cases x now result with ⟨_, -, hc⟩ | ⟨_, -, -, hc⟩ | ⟨_, -, -, hc⟩ <;>
    rw [hc] at hp <;> cases hp

/-- An attempt that starts sends the request of the delivery. -/
theorem requests_send (x : Delivery) (sender : Sender) (now : Nat) :
    (x.send sender now).Requests sender := by
  unfold send
  split
  next r hr =>
    intro flight deadline hp
    cases hp
    exact ⟨r, hr, fun _ => rfl, fun _ => Resends.refl r⟩
  · exact requests_conclude x sender now _

/-- A reply leaves a request that is the first one, or resends it. -/
theorem Requests.receive (hr : x.Requests sender) {flight : Flight} {deadline : Nat}
    (hp : x.phase = .flying flight deadline) (now : Nat) (reply : Reply) :
    (x.receive now flight deadline reply).Requests sender := by
  unfold Delivery.receive
  split
  next next hf =>
    intro flight' deadline' hp'
    cases hp'
    obtain ⟨first, hfirst, -, hresends⟩ := hr flight deadline hp
    obtain ⟨status, r, url, hredirected, hrequest, hredirects⟩ := Flight.of_onward hf
    refine ⟨first, hfirst, ?_, ?_⟩
    · intro hzero
      omega
    · -- a redirect that leaves a `POST` has found one
      intro hpost
      rw [hrequest] at hpost ⊢
      rw [Request.moveTo_method] at hpost
      obtain rfl := eq_of_redirected? hredirected hpost
      exact (hresends hpost).moveTo url
  · exact requests_conclude x sender now _

/-- A move leaves a request that is the first one of the attempt, or resends it. -/
theorem Requests.move {m : Move} (hr : x.Requests sender) (hm : x.move? sender now m = some y) :
    y.Requests sender := by
  rcases move?_cases hm with ⟨time, -, -, -, rfl⟩ | ⟨flight, deadline, reply, -, hp, rfl⟩ |
    ⟨flight, deadline, -, -, -, rfl⟩
  · exact requests_send x sender now
  · exact hr.receive hp now reply
  · exact requests_conclude x sender now _

/-- In every course, the request under way has begun as the request of the delivery. -/
theorem Course.requests {envelope : Envelope} {endpoint : Endpoint}
    (hc : Course sender (Delivery.start now envelope endpoint) x log) : x.Requests sender := by
  induction hc with
  | start =>
    intro flight deadline hp
    cases hp
  | move now m hc hm ih => exact ih.move hm

end Delivery

end Webhook
