import Webhook.Bootstrap
import Webhook.Registry.Validation

/-!
# The endpoint registry

The registered endpoints by their identifiers, in the order of registration. Every operation is
about one entry, and leaves the registry as it is when it fails.
-/

namespace Webhook

/-- The registered endpoints. -/
structure Registry where
  /-- The endpoints with the identifiers that they are stored under. -/
  entries : List (EndpointId × Endpoint)
  /-- The retry policy of endpoints registered without one. -/
  defaultRetry : RetryPolicy
  deriving DecidableEq

namespace Registry

/-- The registry without endpoints. -/
def empty (defaultRetry : RetryPolicy) : Registry := ⟨[], defaultRetry⟩

/-- The endpoint with an identifier. -/
def get? (r : Registry) (id : EndpointId) : Option Endpoint := r.entries.lookup id

/-- Whether an identifier is in use. -/
def contains (r : Registry) (id : EndpointId) : Bool := (r.get? id).isSome

/-- All endpoints. -/
def list (r : Registry) : List Endpoint := r.entries.map Prod.snd

/-- The enabled endpoints that subscribe to an event type. -/
def subscribers (r : Registry) (t : EventType) : List Endpoint :=
  r.list.filter fun e => e.isSubscribed t

/-- The number of endpoints, and of enabled ones. -/
def counts (r : Registry) : Nat × Nat :=
  (r.entries.length, (r.list.filter Endpoint.enabled).length)

/-- Adds an endpoint. The identifiers that the generator yields are tried in turn, and the first one
not in use is taken; without one there is no result. -/
def register (r : Registry) (candidates : List EndpointId) (seed : Seed) (new : Endpoint.New) :
    Except RegistrationError (Option (EndpointId × Registry)) :=
  match candidates.find? fun id => !r.contains id with
  | none => (new.build r.defaultRetry seed ⟨""⟩).map fun _ => none
  | some id => do
    let e ← new.build r.defaultRetry seed id
    return some (id, { r with entries := r.entries ++ [(id, e)] })

/-- Changes the endpoint with an identifier; there is no result where there is none. -/
def update (r : Registry) (id : EndpointId) (u : Endpoint.Update) :
    Except RegistrationError (Option Registry) :=
  match r.get? id with
  | none => .ok none
  | some e => do
    let next ← u.apply e
    return some { r with entries := r.entries.map fun p => if p.1 = id then (id, next) else p }

/-- Removes the endpoint with an identifier; there is no result where there is none. -/
def unregister (r : Registry) (id : EndpointId) : Option Registry :=
  if r.contains id then some { r with entries := r.entries.filter fun p => p.1 ≠ id } else none

/-! ## Bootstrap -/

/-- What one registration draws from the outside: identifiers to try, and random bytes. -/
structure Draw where
  /-- The identifiers that the generator yields, in turn. -/
  candidates : List EndpointId
  /-- Random bytes for a secret. -/
  seed : Seed

/-- What registers a declared endpoint: it subscribes to all events. -/
def declared (pair : String × Option String) : Endpoint.New :=
  { Endpoint.New.of pair.1 EventType.all with secret := pair.2 }

/-- Registers declared endpoints in order and passes over those that are not valid; the `n`-th that
is registered draws `draw n`. Returns their identifiers. -/
def loadPairs (draw : Nat → Draw) :
    Registry → List (String × Option String) → List EndpointId × Registry
  | r, [] => ([], r)
  | r, pair :: rest =>
    match r.register (draw 0).candidates (draw 0).seed (declared pair) with
    | .ok (some (id, r')) =>
      let (ids, r'') := loadPairs (fun n => draw (n + 1)) r' rest
      (id :: ids, r'')
    | _ => loadPairs draw r rest

/-- Registers the endpoints of a bootstrap. -/
def loadBootstrap (r : Registry) (draw : Nat → Draw) (b : Bootstrap) :
    List EndpointId × Registry :=
  r.loadPairs draw b.pairs

end Registry

end Webhook
