import Webhook.Dictionary
import Webhook.Endpoint.RetryPolicy
import Webhook.Event.EventType

/-!
# Endpoints

Where events are delivered to. An endpoint is registered from a configuration without an identifier
(`Endpoint.New`) and changed by an update whose absent fields leave the endpoint as it is.
-/

namespace Webhook

/-- The identifier of an endpoint. -/
structure EndpointId where
  /-- The text of the identifier. -/
  text : String
  deriving DecidableEq

/-- A registered destination of events. -/
structure Endpoint where
  /-- The identifier, assigned at registration. -/
  id : EndpointId
  /-- The url that requests go to. -/
  url : String
  /-- The secret that requests are signed with. -/
  secret : String
  /-- The event types that the endpoint subscribes to. -/
  events : EventSet
  /-- Whether the endpoint takes part in deliveries of events. -/
  enabled : Bool
  /-- How failed deliveries are tried again. -/
  retryPolicy : RetryPolicy
  /-- Headers of its own, which win over those that every request has. -/
  headers : Dictionary String
  deriving DecidableEq

namespace Endpoint

/-- Whether the endpoint is to receive events of a type. -/
def isSubscribed (e : Endpoint) (t : EventType) : Bool :=
  e.enabled && e.events.contains t

/-- What is given to register an endpoint. -/
structure New where
  /-- The url that requests go to. -/
  url : String
  /-- The event types that the endpoint subscribes to. -/
  events : List EventType
  /-- The secret, if it is not to be generated. -/
  secret : Option String
  /-- Whether the endpoint is enabled; it is where nothing is said. -/
  enabled : Option Bool
  /-- The retry policy, if it is not the registry's. -/
  retryPolicy : Option RetryPolicy
  /-- Headers of its own. -/
  headers : Dictionary String
  deriving DecidableEq

/-- What is given to register an endpoint with this url and these events, and nothing else. -/
def New.of (url : String) (events : List EventType) : New :=
  ⟨url, events, none, none, none, Dictionary.empty⟩

/-- A change of an endpoint; absent fields stay as they are. -/
structure Update where
  /-- The new url. -/
  url : Option String
  /-- The new secret; an empty one counts as absent. -/
  secret : Option String
  /-- The new event types. -/
  events : Option (List EventType)
  /-- The new setting of `enabled`. -/
  enabled : Option Bool
  /-- The new retry policy. -/
  retryPolicy : Option RetryPolicy
  /-- The new headers. -/
  headers : Option (Dictionary String)
  deriving DecidableEq

/-- The change that enables or disables an endpoint. -/
def Update.setEnabled (enabled : Bool) : Update :=
  ⟨none, none, none, some enabled, none, none⟩

/-- What a listing shows of an endpoint: all but its secret and the details of delivery. -/
structure Summary where
  /-- The identifier. -/
  id : EndpointId
  /-- The url. -/
  url : String
  /-- The event types. -/
  events : EventSet
  /-- Whether the endpoint is enabled. -/
  enabled : Bool
  deriving DecidableEq

/-- What a listing shows of an endpoint. -/
def summary (e : Endpoint) : Summary := ⟨e.id, e.url, e.events, e.enabled⟩

end Endpoint

end Webhook
