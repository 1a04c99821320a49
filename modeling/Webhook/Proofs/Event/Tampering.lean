import Webhook.Proofs.Event.Rereading
import Webhook.Proofs.Signature

/-!
# A signature is that of one envelope

Envelopes whose times are whole milliseconds are told apart by their canonical bytes, whether or not
these can be read back: in any year, at any depth, with any numbers (`Envelope.eq_of_canonical`). So
a signature that is accepted for two different envelopes is accepted for two different sequences of
bytes, and these have the same authentication code (`Envelope.eq_or_collision`).
-/

namespace Webhook

open Json

/-- Metadata with equal documents is equal. -/
theorem Metadata.document_injective : Function.Injective document := by
  intro m m' h
  have hread := m.ofDocument?_document
  rw [h, ofDocument?_document] at hread
  exact (Option.some.inj hread).symm

/-- Event types with equal names are equal. -/
theorem EventType.name_injective : Function.Injective name := by
  intro t t' h
  have hread := ofName?_name t
  rw [h, ofName?_name] at hread
  exact (Option.some.inj hread).symm

namespace Envelope

/-- Envelopes with equal documents are equal, up to what is below a millisecond. -/
theorem eq_of_document_eq {e e' : Envelope} (h : e.document = e'.document) :
    { e with timestamp := e.timestamp.truncate } =
      { e' with timestamp := e'.timestamp.truncate } := by
  have hdata : e.data = e'.data := data_eq_of_document_eq h
  simp only [document, Document.ofFields, fields, Document.object.injEq, List.map_cons,
    List.cons_append, List.nil_append, List.cons.injEq, Prod.mk.injEq, Document.string.injEq] at h
  obtain ⟨⟨-, hid⟩, ⟨-, hevent⟩, ⟨-, htime⟩, -, hmetadata⟩ := h
  have hid : e.id = e'.id := congrArg EventId.mk (Piece.ofText_inj hid)
  have hevent : e.eventType = e'.eventType := EventType.name_injective (Piece.ofText_inj hevent)
  have htime : e.timestamp.truncate = e'.timestamp.truncate :=
    Timestamp.truncate_eq_of_toText_eq (Piece.ofText_inj htime)
  have hmetadata : e.metadata = e'.metadata := by
    cases hm : e.metadata with
    | none =>
      cases hm' : e'.metadata with
      | none => rfl
      | some m' => simp [hm, hm'] at hmetadata
    | some m =>
      cases hm' : e'.metadata with
      | none => simp [hm, hm'] at hmetadata
      | some m' =>
        -- metadata that is there is written, even without any key
        have hdocument : m.document = m'.document := by simpa [hm, hm'] using hmetadata
        rw [Metadata.document_injective hdocument]
  rw [hid, hevent, htime, hdata, hmetadata]

/-- Envelopes of whole milliseconds with equal canonical bytes are equal. -/
theorem eq_of_canonical {e e' : Envelope} (hmillis : e.timestamp.nano % 1000000 = 0)
    (hmillis' : e'.timestamp.nano % 1000000 = 0) (h : e.canonicalPayload = e'.canonicalPayload) :
    e = e' := by
  have hcut := eq_of_document_eq (document_eq_of_canonicalPayload_eq h)
  rw [e.timestamp.truncate_eq_self_iff.2 hmillis, e'.timestamp.truncate_eq_self_iff.2 hmillis']
    at hcut
  exact hcut

/-- A text that is accepted as the signature of two payloads shows that they have the same
authentication code. -/
theorem mac_eq_of_verify {secret payload payload' : Bytes} {text : String}
    (h : Signature.verify secret payload text = true)
    (h' : Signature.verify secret payload' text = true) :
    Digest.Hmac.mac secret payload = Digest.Hmac.mac secret payload' := by
  have hmac := eq_of_beq h
  rw [eq_of_beq h'] at hmac
  exact (Option.some.inj hmac).symm

/-- Envelopes of whole milliseconds are told apart by their canonical bytes. So a text that is
accepted as the signature of two of them under one secret shows that they are one envelope, or else
that their canonical bytes are different and have the same authentication code under that secret. -/
theorem eq_or_collision {e e' : Envelope} (hmillis : e.timestamp.nano % 1000000 = 0)
    (hmillis' : e'.timestamp.nano % 1000000 = 0) :
    (e.canonicalPayload = e'.canonicalPayload ↔ e = e') ∧
      ∀ text secret, e.verify text secret = true → e'.verify text secret = true →
        e = e' ∨ (e.canonicalPayload ≠ e'.canonicalPayload ∧
          Digest.Hmac.mac (Text.utf8 secret) e.canonicalPayload =
            Digest.Hmac.mac (Text.utf8 secret) e'.canonicalPayload) := by
  have hcanonical : e.canonicalPayload = e'.canonicalPayload ↔ e = e' :=
    ⟨eq_of_canonical hmillis hmillis', fun h => congrArg canonicalPayload h⟩
  refine ⟨hcanonical, ?_⟩
  intro text secret h h'
  by_cases heq : e = e'
  · exact .inl heq
  · exact .inr ⟨fun hpayload => heq (hcanonical.1 hpayload), mac_eq_of_verify h h'⟩

/-! A zero and a negative zero, in a year that takes a sign and so is not read back. -/

/-- An envelope of the year 12026 that holds a zero, and metadata without any key. -/
def zeroEnvelope (negative : Bool) : Envelope where
  id := ⟨""⟩
  eventType := .payoutFailed
  timestamp := ⟨⟨12026, 5, 28, by decide, by decide⟩, 1, 59, 999000000,
    by decide, by decide, by decide⟩
  data := ⟨[("", .number (.float (.zero negative)))], List.pairwise_singleton _ _, trivial, trivial⟩
  metadata := some Metadata.empty

/-- The two zeros have different bytes, so that a signature of the first is one of the second only
if the bytes have the same authentication code. -/
theorem zeroEnvelope_told_apart :
    (zeroEnvelope false).canonicalPayload ≠ (zeroEnvelope true).canonicalPayload ∧
      ∃ text, (zeroEnvelope false).verify text "s" = true ∧
        ((zeroEnvelope true).verify text "s" = true →
          Digest.Hmac.mac (Text.utf8 "s") (zeroEnvelope false).canonicalPayload =
            Digest.Hmac.mac (Text.utf8 "s") (zeroEnvelope true).canonicalPayload) := by
  have hne : zeroEnvelope false ≠ zeroEnvelope true := by decide
  obtain ⟨hcanonical, hcollision⟩ :=
    @eq_or_collision (zeroEnvelope false) (zeroEnvelope true) (by decide) (by decide)
  have hverify : (zeroEnvelope false).verify ((zeroEnvelope false).sign "s") "s" = true :=
    verify_sign rfl "s"
  refine ⟨fun h => hne (hcanonical.1 h), _, hverify, fun hverify' => ?_⟩
  exact ((hcollision _ "s" hverify hverify').resolve_left hne).2

end Envelope

end Webhook
