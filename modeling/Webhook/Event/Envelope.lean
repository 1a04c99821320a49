import Webhook.Event.EventType
import Webhook.Event.Metadata
import Webhook.Timestamp.Text

/-!
# Event envelopes

The unit of webhook data for one event. Its canonical text is both the body of a request and what
is signed: the members in a fixed order, the data with its keys in order, the time in UTC to the
millisecond, and no metadata where there is none.
-/

namespace Webhook

/-- The identifier of an event. -/
structure EventId where
  /-- The text of the identifier. -/
  text : String
  deriving DecidableEq

/-- One event, as it is sent to endpoints. -/
structure Envelope where
  /-- The identifier of the event. -/
  id : EventId
  /-- What has happened. -/
  eventType : EventType
  /-- When it happened. -/
  timestamp : Timestamp
  /-- The fields of this event. -/
  data : Json.Object
  /-- The well-known keys, if there are any. -/
  metadata : Option Metadata
  deriving DecidableEq

/-- The event type of a document: its name, or an object whose only key is the name and whose value
is null. -/
def EventType.ofDocument? : Json.Document → Option EventType
  | .string pieces => (Json.Piece.text? pieces).bind ofName?
  | .object [(key, .null)] => (Json.Piece.text? key).bind ofName?
  | _ => none

namespace Envelope

/-- How many containers an envelope may nest, itself included. -/
def maxDepth : Nat := 127

/-- The envelope of a document. -/
def ofDocument? (d : Json.Document) : Option Envelope := do
  let r ← Json.Record.ofDocument? ["id", "event", "timestamp", "data", "metadata"] d
  return {
    id := ⟨← r.required "id" Json.Document.text?⟩
    eventType := ← r.required "event" EventType.ofDocument?
    timestamp := ← r.required "timestamp" fun d => d.text?.bind Timestamp.ofText?
    data := ← r.required "data" (Json.Object.ofDocument? (maxDepth - 1))
    metadata := ← r.optional "metadata" Metadata.ofDocument? }

/-- The envelope that a JSON text spells. -/
def parse (text : String) : Option Envelope :=
  (Json.Document.parse text).bind ofDocument?

/-- The canonical text of an envelope, as characters. -/
def print (e : Envelope) : List Char :=
  Json.braced ([("id", Json.printString e.id.text),
      ("event", Json.printString e.eventType.name),
      ("timestamp", Json.printString e.timestamp.toText),
      ("data", (Json.Value.object e.data.members).print)] ++
    (e.metadata.map fun m => ("metadata", m.print)).toList)

/-- The canonical text of an envelope. -/
def canonicalText (e : Envelope) : String := String.ofList e.print

/-- The canonical bytes of an envelope: the body of its requests, and what is signed. -/
def canonicalPayload (e : Envelope) : Bytes := Text.utf8 e.canonicalText

/-- The envelope of a new event; its time is cut to milliseconds, so that the text keeps it. -/
def new (id : EventId) (now : Timestamp) (eventType : EventType) (data : Json.Object)
    (metadata : Option Metadata) : Envelope :=
  ⟨id, eventType, now.truncate, data, metadata⟩

end Envelope

end Webhook
