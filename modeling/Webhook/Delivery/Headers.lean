import Webhook.Endpoint.Basic
import Webhook.Inbound
import Webhook.Http.Header

/-!
# Headers of a delivery

The headers that a request to an endpoint carries: those of every request, then the endpoint's own
in the order of their names, each of which replaces one of the same name up to the case of letters.
A name or value that is not that of a header is left out.
-/

namespace Webhook

/-- The headers of every request. -/
def defaultHeaders (userAgent signature : String) (envelope : Envelope) : List (String × String) :=
  [("content-type", "application/json"), (signatureHeader, signature),
   (eventHeader, envelope.eventType.name), (idHeader, envelope.id.text),
   (timestampHeader, envelope.timestamp.toText), ("user-agent", userAgent)]

/-- The headers of a request to an endpoint. -/
def deliveryHeaders (userAgent signature : String) (envelope : Envelope) (endpoint : Endpoint) :
    HeaderMap :=
  (defaultHeaders userAgent signature envelope ++ endpoint.headers.entries).foldl
    (fun headers h => HeaderMap.set headers h.1 h.2) Dictionary.empty

end Webhook
