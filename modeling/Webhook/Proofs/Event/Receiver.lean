import Webhook.Proofs.Event.Rereading
import Webhook.Proofs.Signature

/-!
# A receiver that reads the body and verifies again

A receiver may read an envelope from the body of a request and check the signature against the
canonical bytes of what it has read. These are the bytes that were signed exactly when each
double-precision number of the data is read back as itself (`Envelope.reverifies_iff`). The reader
of numbers does not give the nearest one in all cases, so that there are envelopes whose signature
the receiver then refuses (`Envelope.bill_roundedSum_refused`).
-/

namespace Webhook.Envelope

/-- A receiver gets the bytes that were signed, and so accepts the signature under every secret,
exactly when the double-precision numbers of the data are read back as themselves. -/
theorem reverifies_iff {e : Envelope} (hmillis : e.timestamp.nano % 1000000 = 0)
    (hyear : 0 ≤ e.timestamp.date.year ∧ e.timestamp.date.year ≤ 9999)
    (hdepth : e.document.depth ≤ 127) :
    (∃ e', ofPayload? e.canonicalPayload = some e' ∧ e'.canonicalPayload = e.canonicalPayload ∧
        ∀ secret, e'.verify (e.sign secret) secret = true) ↔
      ∀ x ∈ e.data.floats, Json.rereadFloat x = some x := by
  have htruncate : e.timestamp.truncate = e.timestamp :=
    e.timestamp.truncate_eq_self_iff.2 hmillis
  have hreread := Json.Value.reread_eq_self_iff (.object e.data.members)
  constructor
  · rintro ⟨e', hread, hpayload, -⟩
    obtain ⟨-, -, hdata, -⟩ := ofPayload?_eq_some_iff.1 hread
    -- bytes tell data apart, so that the data was read back as itself
    rw [data_eq_of_document_eq (document_eq_of_canonicalPayload_eq hpayload)] at hdata
    exact hreread.1 hdata
  · intro hfloats
    have hread : ofPayload? e.canonicalPayload = some e := by
      refine ofPayload?_eq_some_iff.2 ⟨hyear, hdepth, hreread.2 hfloats, ?_⟩
      rw [htruncate]
    exact ⟨e, hread, rfl, fun secret => verify_sign rfl secret⟩

/-! ## Two amounts -/

/-- An envelope that tells an amount of money. -/
def bill (amount : Binary64) : Envelope :=
  Envelope.new ⟨"evt"⟩
    ⟨⟨2026, 3, 14, by decide, by decide⟩, 909, 26, 535000000, by decide, by decide, by decide⟩
    .groupCreated
    ⟨[("amount", .number (.float amount))], List.pairwise_singleton _ _, trivial, trivial⟩ none

/-- One half. -/
def half : Binary64 := ⟨false, 4602678819172646912, by decide⟩

/-- The rounded sum of 9.1 and 0.2, the number before 9.3. -/
def roundedSum : Binary64 := ⟨false, 4621425052621576601, by decide⟩

/-- A half is read back as a half, and the receiver accepts a bill of that amount. -/
theorem bill_half_accepted : ∃ e', ofPayload? (bill half).canonicalPayload = some e' ∧
    ∀ secret, e'.verify ((bill half).sign secret) secret = true := by
  have hfloats : ∀ x ∈ (bill half).data.floats, Json.rereadFloat x = some x := by
    decide +kernel
  obtain ⟨e', hread, -, hverify⟩ :=
    (reverifies_iff (e := bill half) (by decide) (by decide) (by decide)).2 hfloats
  exact ⟨e', hread, hverify⟩

/-- The sum is written as 9.299999999999999 and read back as 9.3, and the receiver refuses a bill of
that amount. -/
theorem bill_roundedSum_refused : ∃ e', ofPayload? (bill roundedSum).canonicalPayload = some e' ∧
    e'.verify ((bill roundedSum).sign "s") "s" = false := by
  refine ⟨bill ⟨false, 4621425052621576602, by decide⟩, ?_, ?_⟩
  · decide +kernel
  · decide +kernel

end Webhook.Envelope
