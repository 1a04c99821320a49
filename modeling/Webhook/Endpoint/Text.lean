import Webhook.Endpoint.Basic
import Webhook.Event.Envelope

/-!
# Endpoints as JSON

The JSON forms of endpoints, of what registers and changes them, and of their summaries. A field
that is absent from a `New` or an `Update` is written as null, and null is read as absent. An
empty list, map or text is not absent.
-/

namespace Webhook

open Json

/-- An optional field, with null where it is absent. -/
def printOption {α : Type} (print : α → List Char) : Option α → List Char
  | none => "null".toList
  | some a => print a

/-- A truth value. -/
def printBool (b : Bool) : List Char := (Value.bool b).print

/-- A list of event types, by name. -/
def EventType.printList (types : List EventType) : List Char :=
  bracketed (types.map fun t => printString t.name)

/-- A map from texts to texts, in the order of keys. -/
def printTextMap (d : Dictionary String) : List Char :=
  braced (d.entries.map fun e => (e.1, printString e.2))

/-- The event types of a document, in its order. -/
def EventType.listOfDocument? : Document → Option (List EventType) :=
  Document.listOf? EventType.ofDocument?

namespace Endpoint

/-- The configuration of a document that is to register an endpoint. -/
def New.ofDocument? (d : Document) : Option New := do
  let r ← Record.ofDocument? ["url", "events", "secret", "enabled", "retryPolicy", "headers"] d
  return {
    url := ← r.required "url" Document.text?
    events := ← r.required "events" EventType.listOfDocument?
    secret := ← r.optional "secret" Document.text?
    enabled := ← r.optional "enabled" Document.bool?
    retryPolicy := ← r.optional "retryPolicy" RetryPolicy.ofDocument?
    headers := ← r.withDefault "headers" Dictionary.empty Document.textMap? }

/-- The JSON text of what registers an endpoint. -/
def New.print (e : New) : List Char :=
  braced [("url", printString e.url), ("events", EventType.printList e.events),
    ("secret", printOption printString e.secret), ("enabled", printOption printBool e.enabled),
    ("retryPolicy", printOption RetryPolicy.print e.retryPolicy),
    ("headers", printTextMap e.headers)]

/-- The change of a document. -/
def Update.ofDocument? (d : Document) : Option Update := do
  let r ← Record.ofDocument? ["url", "secret", "events", "enabled", "retryPolicy", "headers"] d
  return {
    url := ← r.optional "url" Document.text?
    secret := ← r.optional "secret" Document.text?
    events := ← r.optional "events" EventType.listOfDocument?
    enabled := ← r.optional "enabled" Document.bool?
    retryPolicy := ← r.optional "retryPolicy" RetryPolicy.ofDocument?
    headers := ← r.optional "headers" Document.textMap? }

/-- The JSON text of a change. -/
def Update.print (u : Update) : List Char :=
  braced [("url", printOption printString u.url), ("secret", printOption printString u.secret),
    ("events", printOption EventType.printList u.events),
    ("enabled", printOption printBool u.enabled),
    ("retryPolicy", printOption RetryPolicy.print u.retryPolicy),
    ("headers", printOption printTextMap u.headers)]

/-- The endpoint of a document. -/
def ofDocument? (d : Document) : Option Endpoint := do
  let r ← Record.ofDocument?
    ["id", "url", "secret", "events", "enabled", "retryPolicy", "headers"] d
  return {
    id := ⟨← r.required "id" Document.text?⟩
    url := ← r.required "url" Document.text?
    secret := ← r.required "secret" Document.text?
    events := EventSet.ofList (← r.required "events" EventType.listOfDocument?)
    enabled := ← r.required "enabled" Document.bool?
    retryPolicy := ← r.required "retryPolicy" RetryPolicy.ofDocument?
    headers := ← r.withDefault "headers" Dictionary.empty Document.textMap? }

/-- The JSON text of an endpoint. -/
def print (e : Endpoint) : List Char :=
  braced [("id", printString e.id.text), ("url", printString e.url),
    ("secret", printString e.secret), ("events", EventType.printList e.events.members),
    ("enabled", printBool e.enabled), ("retryPolicy", e.retryPolicy.print),
    ("headers", printTextMap e.headers)]

/-- The JSON text of a summary. -/
def Summary.print (s : Summary) : List Char :=
  braced [("id", printString s.id.text), ("url", printString s.url),
    ("events", EventType.printList s.events.members), ("enabled", printBool s.enabled)]

end Endpoint

end Webhook
