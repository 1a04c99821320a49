import Webhook.Json.Printer
import Webhook.Json.Record

/-!
# Event metadata

The well-known optional keys of an envelope, by which receivers filter. A key that is absent is left
out of the text; an absent and a null key are read alike.
-/

namespace Webhook

/-- The well-known keys of an envelope. -/
structure Metadata where
  /-- The group that the event is about. -/
  groupId : Option String
  /-- The user that the event is about. -/
  userId : Option String
  /-- The transaction that the event comes from. -/
  transactionHash : Option String
  /-- The network of the transaction. -/
  network : Option String
  deriving DecidableEq

namespace Metadata

/-- Metadata without any key. -/
def empty : Metadata := ⟨none, none, none, none⟩

/-- The metadata of a document. -/
def ofDocument? (d : Json.Document) : Option Metadata := do
  let r ← Json.Record.ofDocument? ["groupId", "userId", "transactionHash", "network"] d
  return {
    groupId := ← r.optional "groupId" Json.Document.text?
    userId := ← r.optional "userId" Json.Document.text?
    transactionHash := ← r.optional "transactionHash" Json.Document.text?
    network := ← r.optional "network" Json.Document.text? }

/-- The JSON text of metadata. -/
def print (m : Metadata) : List Char :=
  Json.braced ([("groupId", m.groupId), ("userId", m.userId),
    ("transactionHash", m.transactionHash), ("network", m.network)].filterMap
      fun field => field.2.map fun s => (field.1, Json.printString s))

end Metadata

end Webhook
