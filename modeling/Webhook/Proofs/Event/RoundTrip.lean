import Webhook.Proofs.Event.Rereading

/-!
# The round trip of an envelope

Which envelopes are read back from their canonical bytes, and what is read back, for data without
double-precision numbers: it is the envelope with its time cut to milliseconds, if the year has four
digits and the text is not too deep, and nothing otherwise (`Envelope.ofPayload?_of_floats_eq_nil`).
`Envelope.round_trip` puts this as a statement about the text, whose document tells how deep it is.
-/

namespace Webhook.Envelope

/-- Data without double-precision numbers is read back as itself. -/
theorem reread_of_floats_eq_nil {e : Envelope} (h : e.data.floats = []) :
    (Json.Value.object e.data.members).reread = some (.object e.data.members) := by
  rw [Json.Value.reread_eq_self_iff]
  intro x hx
  rw [show (Json.Value.object e.data.members).floats = [] from h] at hx
  cases hx

/-- The canonical bytes are read exactly when the year has four digits and the text is no deeper
than may be read, and what is read is the envelope with its time cut to milliseconds. -/
theorem ofPayload?_of_floats_eq_nil {e : Envelope} (h : e.data.floats = []) :
    ofPayload? e.canonicalPayload =
      if (0 ≤ e.timestamp.date.year ∧ e.timestamp.date.year ≤ 9999) ∧
          e.document.depth ≤ maxDepth then
        some { e with timestamp := e.timestamp.truncate }
      else none := by
  -- without floats all values are reread as they are
  have hreread := reread_of_floats_eq_nil h
  split
  next hreadable => exact ofPayload?_eq_some_iff.2 ⟨hreadable.1, hreadable.2, hreread, rfl⟩
  next hunreadable =>
    rw [Option.eq_none_iff_forall_ne_some]
    intro e' he'
    obtain ⟨hyear, hdepth, -, -⟩ := ofPayload?_eq_some_iff.1 he'
    exact hunreadable ⟨hyear, hdepth⟩

/-- Cutting the time to milliseconds leaves an envelope as it is exactly when the time has nothing
below them. -/
theorem truncate_eq_self_iff (e : Envelope) :
    { e with timestamp := e.timestamp.truncate } = e ↔ e.timestamp.nano % 1000000 = 0 := by
  rw [← Timestamp.truncate_eq_self_iff]
  obtain ⟨id, eventType, timestamp, data, metadata⟩ := e
  simp

/-- The time of a new envelope has nothing below milliseconds. -/
theorem new_nano (id : EventId) (now : Timestamp) (eventType : EventType) (data : Json.Object)
    (metadata : Option Metadata) :
    (new id now eventType data metadata).timestamp.nano % 1000000 = 0 :=
  Nat.mul_mod_left _ _

/-- An envelope without double-precision numbers is read back from its canonical text exactly when
its year has four digits and the document of the text nests at most 127 containers. What is read is
the envelope with its time cut to milliseconds, which is the envelope itself exactly when its time
has nothing below them, as that of a new envelope has not. -/
theorem round_trip {e : Envelope} (h : e.data.floats = []) :
    Json.Document.parse e.canonicalText = some e.document ∧
      ((∃ e', ofPayload? e.canonicalPayload = some e') ↔
        (0 ≤ e.timestamp.date.year ∧ e.timestamp.date.year ≤ 9999) ∧ e.document.depth ≤ 127) ∧
      (∀ e', ofPayload? e.canonicalPayload = some e' →
        e' = { e with timestamp := e.timestamp.truncate } ∧
          (e' = e ↔ e.timestamp.nano % 1000000 = 0)) ∧
      ∀ id now eventType data metadata,
        (new id now eventType data metadata).timestamp.nano % 1000000 = 0 := by
  refine ⟨e.parse_canonicalText, ?_, ?_, new_nano⟩
  · rw [ofPayload?_of_floats_eq_nil h]
    constructor
    · rintro ⟨e', he'⟩
      exact (Option.ite_none_right_eq_some.1 he').1
    · intro hreadable
      exact ⟨_, if_pos hreadable⟩
  · intro e' he'
    rw [ofPayload?_of_floats_eq_nil h] at he'
    obtain ⟨-, heq⟩ := Option.ite_none_right_eq_some.1 he'
    obtain rfl := Option.some.inj heq
    exact ⟨rfl, e.truncate_eq_self_iff⟩

/-! A leap second with nanoseconds, the least integer, a key beyond ASCII, and metadata with one
key. -/

/-- Data of every kind but for double-precision numbers. -/
def leapData : Json.Object where
  members := [("deep", .array [.object [], .array [.null, .bool true]]),
    ("least", .number (.integer ⟨-9223372036854775808, by decide, by decide⟩)),
    ("ключ", .string "\"\\\n\x01")]
  sorted := by
    have keys : ["deep", "least", "ключ"].Pairwise (· < ·) := by decide
    exact ⟨(List.pairwise_map (f := Prod.fst)).1 keys,
      ⟨⟨List.Pairwise.nil, trivial⟩, ⟨trivial, trivial, trivial⟩, trivial⟩, trivial, trivial,
      trivial⟩

/-- An envelope at the end of a leap second. -/
def leapEnvelope : Envelope where
  id := ⟨"last"⟩
  eventType := .cycleEnded
  timestamp := ⟨⟨2016, 12, 31, by decide, by decide⟩, 1439, 60, 999999999,
    by decide, by decide, by decide⟩
  data := leapData
  metadata := some { Metadata.empty with network := some "testnet" }

/-- It is read back, but not as itself. -/
theorem round_trip_leapEnvelope :
    leapEnvelope.data.floats = [] ∧ ∃ e', ofPayload? leapEnvelope.canonicalPayload = some e' ∧
      e' ≠ leapEnvelope := by
  have hfloats : leapEnvelope.data.floats = [] := rfl
  obtain ⟨-, hreadable, hread, -⟩ := round_trip hfloats
  obtain ⟨e', he'⟩ := hreadable.2 (by decide)
  refine ⟨hfloats, e', he', fun heq => ?_⟩
  exact absurd ((hread e' he').2.1 heq) (by decide)

end Webhook.Envelope
