import Webhook.Endpoint.Basic
import Webhook.Http.Header
import Webhook.Text.Blank
import Webhook.Text.Hex
import Webhook.Url.Parser

/-!
# Validation of endpoints

What a configuration must satisfy to become an endpoint, in the order in which it is checked: the
url, the events, the retry delay and the headers. `Endpoint.New.build` makes an endpoint of a
configuration, and `Endpoint.Update.apply` changes one; an update checks the fields that it gives.
-/

namespace Webhook

/-- Why an endpoint cannot be registered or changed. -/
inductive RegistrationError where
  /-- The url is blank. -/
  | missingUrl
  /-- The trimmed url is no url. -/
  | invalidUrl (url : String) (fault : UrlError)
  /-- The url has another scheme than `http` and `https`. -/
  | unsupportedScheme (scheme : String)
  /-- There are no events. -/
  | noEvents
  /-- There is no event type with this name. -/
  | unknownEventType (name : String)
  /-- The retry delay is zero. -/
  | invalidRetryDelay
  /-- The header with this name has a name or a value that no header has. -/
  | invalidHeader (name : String)
  deriving DecidableEq

/-- The message of a registration error. -/
def RegistrationError.message : RegistrationError → String
  | missingUrl => "endpoint url is required"
  | invalidUrl url fault => "invalid endpoint url: " ++ url ++ ": " ++ fault.reason
  | unsupportedScheme scheme =>
    "unsupported url scheme: " ++ scheme ++ " (expected http or https)"
  | noEvents => "endpoint must subscribe to at least one event type"
  | unknownEventType name => "unknown event type: " ++ name
  | invalidRetryDelay => "retry delay must be greater than zero"
  | invalidHeader name => "invalid header: " ++ name

/-- The event type with a name. -/
def EventType.ofName (name : String) : Except RegistrationError EventType :=
  match ofName? name with
  | some t => .ok t
  | none => .error (.unknownEventType name)

/-! ## Fields -/

/-- The trimmed url, if it is one of an endpoint. -/
def validateUrl (raw : String) : Except RegistrationError String :=
  let url := Text.trim raw
  if url.isEmpty then .error .missingUrl
  else
    match Url.parse url with
    | .ok _ => .ok url
    | .error (.unsupportedScheme scheme) => .error (.unsupportedScheme scheme)
    | .error fault => .error (.invalidUrl url fault)

/-- The set of the event types, if there are any. -/
def validateEvents (types : List EventType) : Except RegistrationError EventSet :=
  if types.isEmpty then .error .noEvents else .ok (EventSet.ofList types)

/-- The retry policy, if its delay is not zero. -/
def validateRetryPolicy (policy : RetryPolicy) : Except RegistrationError RetryPolicy :=
  if policy.retryDelayMs = 0 then .error .invalidRetryDelay else .ok policy

/-- The headers, if all have names and values of headers; else the first that does not. -/
def validateHeaders (headers : Dictionary String) :
    Except RegistrationError (Dictionary String) :=
  match headers.entries.find? fun e => !(isHeaderName e.1 && isHeaderValue e.2) with
  | some e => .error (.invalidHeader e.1)
  | none => .ok headers

/-- An optional field checked, with a value for where it is absent. -/
def validateOr {α β : Type} (check : α → Except RegistrationError β) (old : β) :
    Option α → Except RegistrationError β
  | none => .ok old
  | some a => check a

/-! ## Endpoints -/

/-- Random bytes from which a secret is made. -/
abbrev Seed := Fin 32 → UInt8

/-- The secret made from random bytes: 64 hexadecimal digits. -/
def generateSecret (seed : Seed) : String :=
  Text.Hex.encode (List.ofFn seed)

/-- The secret that is given, unless it is absent or empty. -/
def secretOr (old : String) : Option String → String
  | none => old
  | some secret => if secret.isEmpty then old else secret

/-- The endpoint of a configuration, with the retry policy, the secret and the identifier that it
does not give itself. -/
def Endpoint.New.build (new : Endpoint.New) (defaultRetry : RetryPolicy) (seed : Seed)
    (id : EndpointId) : Except RegistrationError Endpoint := do
  let url ← validateUrl new.url
  let events ← validateEvents new.events
  let retryPolicy ← validateRetryPolicy (new.retryPolicy.getD defaultRetry)
  let headers ← validateHeaders new.headers
  return {
    id, url, events, retryPolicy, headers
    secret := secretOr (generateSecret seed) new.secret
    enabled := new.enabled.getD true }

/-- An endpoint changed by an update. -/
def Endpoint.Update.apply (u : Endpoint.Update) (e : Endpoint) :
    Except RegistrationError Endpoint := do
  let url ← validateOr validateUrl e.url u.url
  let events ← validateOr validateEvents e.events u.events
  let retryPolicy ← validateOr validateRetryPolicy e.retryPolicy u.retryPolicy
  let headers ← validateOr validateHeaders e.headers u.headers
  return { e with
    url, events, retryPolicy, headers
    secret := secretOr e.secret u.secret
    enabled := u.enabled.getD e.enabled }

end Webhook
