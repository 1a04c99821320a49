import Webhook.Event.Envelope
import Webhook.Proofs.Json.Records
import Webhook.Proofs.Json.Rereading
import Webhook.Proofs.Text.Utf8
import Webhook.Proofs.Timestamp.Text

/-!
# Envelopes read back

The canonical text of an envelope spells a document (`Envelope.spells_print`), and the document is
read field by field (`Envelope.ofDocument?_document`). Identifier, event type and metadata are
always read back. The time is if its year has four digits, and then to the millisecond. The data
is if it is not too deep, up to its double-precision numbers.
-/

namespace Webhook

open Json

/-! ## Metadata -/

namespace Metadata

/-- The keys of metadata, with what is there for each. -/
def fields (m : Metadata) : List (String × Option String) :=
  [("groupId", m.groupId), ("userId", m.userId), ("transactionHash", m.transactionHash),
    ("network", m.network)]

/-- What the document of metadata has as its members. -/
def record (m : Metadata) : Record := .ofOptions (fun s => .string (Piece.ofText s)) m.fields

/-- The document that the text of metadata spells. -/
def document (m : Metadata) : Document := .ofFields m.record

/-- Printed metadata spells its document. -/
theorem spells_print (m : Metadata) : Spells m.print m.document :=
  .fields (Record.forall₂_ofOptions Spells.string)

/-- Metadata holds texts only. -/
theorem depth_document_le (m : Metadata) : m.document.depth ≤ 1 := by
  refine Document.depth_ofFields_le_iff.2 fun f hf => ?_
  obtain ⟨s, hs⟩ := Record.mem_ofOptions hf
  rw [hs]
  exact Nat.le_refl 0

/-- Metadata is read back as it is, whichever keys are there. -/
theorem ofDocument?_document (m : Metadata) : ofDocument? m.document = some m := by
  have hnodup : (m.fields.map Prod.fst).Nodup := by simp [fields]
  have hrecord : Record.ofDocument? ["groupId", "userId", "transactionHash", "network"] m.document =
      some m.record :=
    Record.ofDocument?_ofFields (fun _ hn => Record.keys_ofOptions.subset hn)
      (hnodup.sublist Record.keys_ofOptions)
  -- each field is a text that is given, or not
  have hoptional : ∀ name,
      Record.optional m.record name Document.text? = some (m.fields.lookup name).join :=
    Record.optional_ofOptions hnodup (fun s => Piece.text?_ofText s) (fun s => by simp)
  unfold ofDocument?
  rw [hrecord]
  simp only [Option.bind_eq_bind, Option.bind_some, hoptional]
  rfl

end Metadata

/-! ## Envelopes -/

/-- The name of an event type is read as that type. -/
theorem EventType.ofDocument?_name (t : EventType) :
    ofDocument? (.string (Piece.ofText t.name)) = some t := by
  simp [ofDocument?, ofName?_name]

namespace Envelope

/-- The members of an envelope, as documents. -/
def fields (e : Envelope) : Record :=
  [("id", .string (Piece.ofText e.id.text)), ("event", .string (Piece.ofText e.eventType.name)),
    ("timestamp", .string (Piece.ofText e.timestamp.toText)), ("data", e.data.document)] ++
    (e.metadata.map fun m => ("metadata", m.document)).toList

/-- The document that the canonical text of an envelope spells. -/
def document (e : Envelope) : Document := .ofFields e.fields

/-- A printed envelope spells its document. -/
theorem spells_print (e : Envelope) : Spells e.print e.document := by
  have hmetadata : List.Forall₂ (fun m f => f.1 = m.1 ∧ Spells m.2 f.2)
      (e.metadata.map fun m => ("metadata", m.print)).toList
      (e.metadata.map fun m => ("metadata", m.document)).toList := by
    cases e.metadata with
    | none => exact .nil
    | some m => exact .cons ⟨rfl, m.spells_print⟩ .nil
  exact Spells.fields (.cons ⟨rfl, .string _⟩ (.cons ⟨rfl, .string _⟩ (.cons ⟨rfl, .string _⟩
    (.cons ⟨rfl, (Value.object e.data.members).spells_print⟩ hmetadata))))

/-- The members of an envelope are read as the fields of a record. -/
theorem record_document (e : Envelope) :
    Record.ofDocument? ["id", "event", "timestamp", "data", "metadata"] e.document =
      some e.fields := by
  have hkeys : e.fields.map Prod.fst =
      ["id", "event", "timestamp", "data"] ++ (e.metadata.map fun _ => "metadata").toList := by
    unfold fields
    cases e.metadata <;> rfl
  -- each key is a known one, and comes once
  refine Record.ofDocument?_ofFields ?_ ?_
  · rw [hkeys]
    cases e.metadata <;> simp
  · rw [hkeys]
    cases e.metadata <;> simp

/-- The time is written as its text. -/
theorem required_timestamp (e : Envelope) :
    e.fields.required "timestamp" Document.text? = some e.timestamp.toText := by
  simp [Record.required, fields, List.lookup_cons, Document.text?]

/-- An envelope is read back field by field. -/
theorem ofDocument?_document (e : Envelope) : ofDocument? e.document =
    (Timestamp.ofText? e.timestamp.toText).bind fun t =>
      (Object.ofDocument? (maxDepth - 1) e.data.document).map fun o =>
        { e with timestamp := t, data := o } := by
  -- every member of an envelope is a field of the record, read by itself
  have hid : e.fields.required "id" Document.text? = some e.id.text := by
    simp [Record.required, fields, Document.text?]
  have hevent : e.fields.required "event" EventType.ofDocument? = some e.eventType := by
    simp [Record.required, fields, List.lookup_cons, EventType.ofDocument?_name]
  have htimestamp : e.fields.required "timestamp" (fun d => d.text?.bind Timestamp.ofText?) =
      Timestamp.ofText? e.timestamp.toText := by
    simp [Record.required, fields, List.lookup_cons, Document.text?]
  have hdata : e.fields.required "data" (Object.ofDocument? (maxDepth - 1)) =
      Object.ofDocument? (maxDepth - 1) e.data.document := by
    simp [Record.required, fields, List.lookup_cons]
  have hmetadata : e.fields.optional "metadata" Metadata.ofDocument? = some e.metadata := by
    unfold fields
    cases e.metadata with
    | none => rfl
    | some m =>
      have hnull : m.document ≠ .null := by simp [Metadata.document, Document.ofFields]
      rw [Record.optional_of_lookup (d := m.document) rfl hnull, Metadata.ofDocument?_document]
      rfl
  unfold ofDocument?
  rw [record_document]
  simp only [Option.bind_eq_bind, Option.bind_some, hid, hevent, htimestamp, hdata, hmetadata]
  cases Timestamp.ofText? e.timestamp.toText with
  | none => rfl
  | some t =>
    cases Object.ofDocument? (maxDepth - 1) e.data.document with
    | none => rfl
    | some o => rfl

/-- An envelope is as deep as its data makes it. -/
theorem depth_document_le_iff (e : Envelope) {limit : Nat} (hlimit : 2 ≤ limit) :
    e.document.depth ≤ limit ↔ e.data.document.depth ≤ limit - 1 := by
  obtain ⟨n, rfl⟩ : ∃ n, limit = n + 1 := ⟨limit - 1, by omega⟩
  rw [document, Document.depth_ofFields_le_iff, Nat.add_sub_cancel, fields]
  constructor
  · exact fun h => h ("data", e.data.document) (by simp)
  · -- the other members are texts, or metadata, which holds texts only
    intro hdata f hf
    rw [List.mem_append, Option.mem_toList, Option.map_eq_some_iff] at hf
    rcases hf with hf | ⟨m, -, rfl⟩
    · simp only [List.mem_cons, List.not_mem_nil, or_false] at hf
      rcases hf with rfl | rfl | rfl | rfl
      · exact Nat.zero_le n
      · exact Nat.zero_le n
      · exact Nat.zero_le n
      · exact hdata
    · exact m.depth_document_le.trans (by omega)

/-! ## Canonical bytes -/

/-- The envelope that bytes spell. -/
def ofPayload? (payload : Bytes) : Option Envelope :=
  (Text.ofUtf8? payload).bind fun cs => parse (String.ofList cs)

/-- The canonical text is that of the document of the envelope. -/
theorem parse_canonicalText (e : Envelope) :
    Document.parse e.canonicalText = some e.document := e.spells_print.parse_eq

/-- Equal canonical bytes are those of equal documents. -/
theorem document_eq_of_canonicalPayload_eq {e e' : Envelope}
    (h : e.canonicalPayload = e'.canonicalPayload) : e.document = e'.document := by
  have hparse := e.parse_canonicalText
  rw [Text.utf8_injective h, parse_canonicalText] at hparse
  exact (Option.some.inj hparse).symm

/-- Equal documents are those of equal data. -/
theorem data_eq_of_document_eq {e e' : Envelope} (h : e.document = e'.document) :
    e.data = e'.data := by
  have hdata : e.data.document = e'.data.document := by
    simp only [document, Document.ofFields, fields, Document.object.injEq, List.map_append,
      List.map_cons, List.cons_append, List.cons.injEq, Prod.mk.injEq] at h
    exact h.2.2.2.1.2
  -- the document of a value tells the value
  have hvalue := Value.document_inj _ _ hdata
  obtain ⟨id, eventType, timestamp, ⟨members, sorted⟩, metadata⟩ := e
  obtain ⟨id', eventType', timestamp', ⟨members', sorted'⟩, metadata'⟩ := e'
  obtain rfl : members = members' := Value.object.inj hvalue
  rfl

/-- The canonical payload is read as the document of the envelope is. -/
theorem ofPayload?_canonicalPayload (e : Envelope) :
    ofPayload? e.canonicalPayload = ofDocument? e.document := by
  rw [ofPayload?, canonicalPayload, Text.ofUtf8?_utf8, Option.bind_some, String.ofList_toList,
    parse, parse_canonicalText, Option.bind_some]

/-- What an envelope is read back as, and when: the year has four digits, the text is not too deep,
and the data is what its text is read as. -/
theorem ofPayload?_eq_some_iff {e e' : Envelope} :
    ofPayload? e.canonicalPayload = some e' ↔
      (0 ≤ e.timestamp.date.year ∧ e.timestamp.date.year ≤ 9999) ∧
        e.document.depth ≤ maxDepth ∧
        (Value.object e.data.members).reread = some (.object e'.data.members) ∧
        e' = { e with timestamp := e.timestamp.truncate, data := e'.data } := by
  rw [ofPayload?_canonicalPayload, ofDocument?_document, Timestamp.ofText?_toText,
    depth_document_le_iff e (by decide)]
  -- a year of four digits is read back, and any other is not
  by_cases hyear : 0 ≤ e.timestamp.date.year ∧ e.timestamp.date.year ≤ 9999
  · rw [if_pos hyear, Option.bind_some, Option.map_eq_some_iff]
    simp only [Object.ofDocument?_document_eq_some_iff]
    constructor
    · rintro ⟨o, ⟨hdepth, hreread⟩, rfl⟩
      exact ⟨hyear, hdepth, hreread, rfl⟩
    · rintro ⟨-, hdepth, hreread, he⟩
      exact ⟨e'.data, ⟨hdepth, hreread⟩, he.symm⟩
  · simp [hyear]

end Envelope

end Webhook
