import Mathlib.Logic.Relation
import Webhook.Proofs.Event.Rereading
import Webhook.Proofs.Json.Agreement
import Webhook.Proofs.Json.Texts
import Webhook.Proofs.Signature
import Webhook.Proofs.Timestamp.Instant

/-!
# Other wordings of an envelope

The same envelope can be written in many ways. A text may put other space between its tokens and
write the characters of its strings with other escapes: it is then another text of the same document
(`Document.IsTextOf`). A document may have the members of an object in another order, members that
mean nothing, null for an optional member that is absent, and the time at another offset from UTC
(`Envelope.Edit`). Every such document is read as the same envelope (`Envelope.ofDocument?_edit`).

So an envelope is read from every rewording of its text, and signatures of it are made and accepted
as before (`Envelope.parse_rewording`).
-/

namespace Webhook

open Json

/-! ## Event types and metadata -/

/-- An object is no event type, unless its one member is null. -/
theorem EventType.ofDocument?_object_eq_none {ms : List (List Piece × Document)}
    (h : ∀ key, ms ≠ [(key, .null)]) : ofDocument? (.object ms) = none := by
  unfold ofDocument?
  split
  next heq => cases heq
  next heq => exact absurd (Document.object.inj heq) (h _)
  next => rfl

/-- Reorderings are read as the same event type. -/
theorem EventType.ofDocument?_eq_of_reorders {d d' : Document} (h : d.Reorders d') :
    ofDocument? d = ofDocument? d' := by
  cases h with
  | @members ms ms' _ hperm =>
    -- an object of one member has no other order
    by_cases hname : ∃ key, ms = [(key, .null)]
    · obtain ⟨key, rfl⟩ := hname
      rw [List.perm_singleton.1 hperm.symm]
    · have hname' : ¬ ∃ key, ms' = [(key, .null)] := by
        rintro ⟨key, rfl⟩
        exact hname ⟨key, List.perm_singleton.1 hperm⟩
      rw [ofDocument?_object_eq_none fun key hkey => hname ⟨key, hkey⟩,
        ofDocument?_object_eq_none fun key hkey => hname' ⟨key, hkey⟩]
  | item => rfl
  | @member before after key d d' h =>
    -- neither value is the null after a name
    have hnull : ∀ e : Document, e ≠ .null →
        ∀ other, before ++ (key, e) :: after ≠ [(other, .null)] := by
      intro e he other heq
      cases before with
      | nil => exact he (Prod.mk.inj (List.cons.inj heq).1).2
      | cons m before => simp at heq
    rw [ofDocument?_object_eq_none (hnull d h.ne_null.1),
      ofDocument?_object_eq_none (hnull d' h.ne_null.2)]

namespace Metadata

/-- The names of the members of metadata. -/
def names : List String := ["groupId", "userId", "transactionHash", "network"]

/-- Metadata is read the same from records that agree but for what optional texts are read alike. -/
theorem ofDocument?_eq_of_rel {d d' : Document}
    (h : Option.Rel (Record.Agree fun _ x x' =>
        Record.readOptional x Document.text? = Record.readOptional x' Document.text?)
      (Record.ofDocument? names d) (Record.ofDocument? names d')) :
    ofDocument? d = ofDocument? d' := by
  unfold ofDocument?
  rw [show ["groupId", "userId", "transactionHash", "network"] = names from rfl]
  generalize Record.ofDocument? names d = x at h ⊢
  generalize Record.ofDocument? names d' = x' at h ⊢
  cases h with
  | none => rfl
  | some hagree =>
    -- every field is read alike from records that agree
    have hoptional : ∀ name, Record.optional _ name Document.text? =
        Record.optional _ name Document.text? :=
      fun _ => Record.optional_eq_of_agree hagree fun _ _ h => h
    simp only [Option.bind_eq_bind, Option.bind_some, hoptional]

/-- Reorderings are read as the same metadata. -/
theorem ofDocument?_eq_of_reorders {d d' : Document} (h : d.Reorders d') :
    ofDocument? d = ofDocument? d' := by
  refine ofDocument?_eq_of_rel (Record.rel_of_reorders h fun _ e e' h => ?_)
  rw [Record.readOptional_of_ne_null h.ne_null.1, Record.readOptional_of_ne_null h.ne_null.2,
    h.text?_eq_none.1, h.text?_eq_none.2]

/-- Metadata is read alike with unknown members, and with nulls for what is absent. -/
theorem ofDocument?_eq_of_pads {d d' : Document} (h : Record.Pads names names d d') :
    ofDocument? d = ofDocument? d' :=
  ofDocument?_eq_of_rel (Record.rel_of_pads h fun _ _ => rfl)

end Metadata

/-! ## Envelopes -/

namespace Envelope

/-- The names of the members of an envelope. -/
def names : List String := ["id", "event", "timestamp", "data", "metadata"]

/-- One change to how an envelope is written, apart from space and escapes. -/
inductive Edit : Document → Document → Prop where
  /-- The members of one object, at any depth, stand in another order; no key comes twice there. -/
  | reorder {d d' : Document} (h : d.Reorders d') : Edit d d'
  /-- There is one more member: an unknown one, or null for metadata that is absent. -/
  | pad {d d' : Document} (h : Record.Pads names ["metadata"] d d') : Edit d d'
  /-- Metadata has one more member: an unknown one, or null for one that is absent. -/
  | padMetadata {before after : List (List Piece × Document)} {d d' : Document}
    (h : Record.Pads Metadata.names Metadata.names d d') :
    Edit (.object (before ++ (Piece.ofText "metadata", d) :: after))
      (.object (before ++ (Piece.ofText "metadata", d') :: after))
  /-- The time is written at another offset from UTC. -/
  | timestamp {before after : List (List Piece × Document)} {s s' : String}
    (h : Timestamp.SameInstant s s') :
    Edit (.object (before ++ (Piece.ofText "timestamp", .string (Piece.ofText s)) :: after))
      (.object (before ++ (Piece.ofText "timestamp", .string (Piece.ofText s')) :: after))

/-- Whether what two records have for a name is read alike as a member of an envelope. -/
structure Alike (name : String) (x x' : Option Document) : Prop where
  /-- As the identifier. -/
  id : name = "id" → x.bind Document.text? = x'.bind Document.text?
  /-- As the event type. -/
  eventType : name = "event" → x.bind EventType.ofDocument? = x'.bind EventType.ofDocument?
  /-- As the time. -/
  timestamp : name = "timestamp" → (x.bind fun d => d.text?.bind Timestamp.ofText?) =
    x'.bind fun d => d.text?.bind Timestamp.ofText?
  /-- As the data. -/
  data : name = "data" → x.bind (Object.ofDocument? (maxDepth - 1)) =
    x'.bind (Object.ofDocument? (maxDepth - 1))
  /-- As the metadata. -/
  metadata : name = "metadata" → Record.readOptional x Metadata.ofDocument? =
    Record.readOptional x' Metadata.ofDocument?

/-- An envelope is read the same from records that agree but for what is read alike. -/
theorem ofDocument?_eq_of_rel {d d' : Document}
    (h : Option.Rel (Record.Agree Alike) (Record.ofDocument? names d)
      (Record.ofDocument? names d')) : ofDocument? d = ofDocument? d' := by
  unfold ofDocument?
  rw [show ["id", "event", "timestamp", "data", "metadata"] = names from rfl]
  generalize Record.ofDocument? names d = x at h ⊢
  generalize Record.ofDocument? names d' = x' at h ⊢
  cases h with
  | none => rfl
  | some hagree =>
    -- every field is read alike from records that agree
    have hid := Record.required_eq_of_agree hagree fun _ _ h => h.id rfl
    have hevent := Record.required_eq_of_agree hagree fun _ _ h => h.eventType rfl
    have htimestamp := Record.required_eq_of_agree hagree fun _ _ h => h.timestamp rfl
    have hdata := Record.required_eq_of_agree hagree fun _ _ h => h.data rfl
    have hmetadata := Record.optional_eq_of_agree hagree fun _ _ h => h.metadata rfl
    simp only [Option.bind_eq_bind, Option.bind_some, hid, hevent, htimestamp, hdata, hmetadata]

/-- Values with members in another order are read alike, whatever member they are of. -/
theorem alike_of_reorders {d d' : Document} (h : d.Reorders d') (name : String) :
    Alike name (some d) (some d') where
  id _ := by rw [Option.bind_some, Option.bind_some, h.text?_eq_none.1, h.text?_eq_none.2]
  eventType _ := EventType.ofDocument?_eq_of_reorders h
  timestamp _ := by rw [Option.bind_some, Option.bind_some, h.text?_eq_none.1, h.text?_eq_none.2]
  data _ := Object.ofDocument?_eq_of_reorders h _
  metadata _ := by
    rw [Record.readOptional_of_ne_null h.ne_null.1, Record.readOptional_of_ne_null h.ne_null.2,
      Metadata.ofDocument?_eq_of_reorders h]

/-- What is read alike as metadata is read alike under the name of metadata. -/
theorem alike_of_metadata {x x' : Option Document}
    (h : Record.readOptional x Metadata.ofDocument? =
      Record.readOptional x' Metadata.ofDocument?) : Alike "metadata" x x' where
  id h := absurd h (by decide)
  eventType h := absurd h (by decide)
  timestamp h := absurd h (by decide)
  data h := absurd h (by decide)
  metadata _ := h

/-- Two texts of one instant are alike as timestamps. -/
theorem alike_of_sameInstant {s s' : String} (h : Timestamp.SameInstant s s') :
    Alike "timestamp" (some (.string (Piece.ofText s))) (some (.string (Piece.ofText s'))) where
  id h := absurd h (by decide)
  eventType h := absurd h (by decide)
  timestamp _ := by
    simp only [Option.bind_some, Document.text?, Piece.text?_ofText]
    exact Timestamp.ofText?_eq_of_sameInstant h
  data h := absurd h (by decide)
  metadata h := absurd h (by decide)

/-- One change to how an envelope is written does not change the envelope that is read. -/
theorem ofDocument?_edit {d d' : Document} (h : Edit d d') : ofDocument? d = ofDocument? d' := by
  cases h with
  | reorder h =>
    exact ofDocument?_eq_of_rel (Record.rel_of_reorders h fun name _ _ h =>
      alike_of_reorders h name)
  | pad h =>
    -- only metadata may be null
    refine ofDocument?_eq_of_rel (Record.rel_of_pads h fun name hname => ?_)
    obtain rfl := List.mem_singleton.1 hname
    exact alike_of_metadata rfl
  | @padMetadata before after d d' h =>
    -- an object is not null, so that the metadata is there before and after
    have hnull : d ≠ .null ∧ d' ≠ .null := by
      cases h <;> exact ⟨Document.noConfusion, Document.noConfusion⟩
    refine ofDocument?_eq_of_rel (Record.rel_of_replaced fun name hname => ?_)
    rw [Piece.text?_ofText, Option.some.injEq] at hname
    subst hname
    refine alike_of_metadata ?_
    rw [Record.readOptional_of_ne_null hnull.1, Record.readOptional_of_ne_null hnull.2,
      Metadata.ofDocument?_eq_of_pads h]
  | timestamp h =>
    refine ofDocument?_eq_of_rel (Record.rel_of_replaced fun name hname => ?_)
    rw [Piece.text?_ofText, Option.some.injEq] at hname
    subst hname
    exact alike_of_sameInstant h

/-- No number of changes does, in either direction. -/
theorem ofDocument?_edits {d d' : Document} (h : Relation.EqvGen Edit d d') :
    ofDocument? d = ofDocument? d' := by
  induction h with
  | rel _ _ h => exact ofDocument?_edit h
  | refl => rfl
  | symm _ _ _ ih => exact ih.symm
  | trans _ _ _ _ _ ih ih' => exact ih.trans ih'

/-! ## Texts -/

/-- Whether a text is another wording of one: the two are texts of documents that differ in how the
envelope is written only. -/
def Rewording (t t' : String) : Prop :=
  ∃ d d', Document.IsTextOf t d ∧ Document.IsTextOf t' d' ∧ Relation.EqvGen Edit d d'

/-- Every text of an envelope is one of a document. Every other wording of it is read as the same
envelope, and so it has the same canonical bytes and signatures, and accepts the same ones. -/
theorem parse_rewording {t : String} {e : Envelope} (h : parse t = some e) :
    (∃ d, Document.IsTextOf t d) ∧ ∀ t', Rewording t t' →
      ∃ e', parse t' = some e' ∧ e' = e ∧ e'.canonicalPayload = e.canonicalPayload ∧
        (∀ secret, e'.sign secret = e.sign secret) ∧
        ∀ signature secret, e'.verify signature secret = e.verify signature secret := by
  obtain ⟨d, hd, he⟩ := Option.bind_eq_some_iff.1 h
  have htext := Document.parse_eq_some_iff.1 hd
  refine ⟨⟨d, htext⟩, ?_⟩
  rintro t' ⟨d₁, d', ht, ht', hedits⟩
  -- a text is one of a single document
  have hparse := Document.parse_eq_some_iff.2 ht
  rw [hd] at hparse
  obtain rfl := Option.some.inj hparse
  have he' : parse t' = some e := by
    rw [parse, Document.parse_eq_some_iff.2 ht', Option.bind_some, ← ofDocument?_edits hedits, he]
  exact ⟨e, he', rfl, rfl, fun _ => rfl, fun _ _ => rfl⟩

/-! The end of a leap day, and another wording at an offset at which the next month has begun. -/

/-- An event of the last half hour of a 29th of February. -/
def leapDay : Envelope where
  id := ⟨"1"⟩
  eventType := .cycleEnded
  timestamp := ⟨⟨2024, 2, 29, by decide, by decide⟩, 1410, 15, 250000000,
    by decide, by decide, by decide⟩
  data := ⟨[("a", .null), ("b", .bool true)],
    List.pairwise_pair.2 (by decide), trivial, trivial, trivial⟩
  metadata := none

namespace LeapDay

/-- A text at an offset of one hour, with members in another order, a null, an unknown member, an
escape and spaces. -/
def text : String :=
  "\x7b \"event\": \"cycle.ended\", \"id\": \"\\u0031\", " ++
    "\"timestamp\": \"2024-03-01T00:30:15.25+01:00\", " ++
    "\"data\": \x7b\"b\": true, \"a\": null\x7d, \"metadata\": null, \"note\": [] \x7d"

/-- A member that is a text. -/
def member (key value : String) : List Piece × Document :=
  (Piece.ofText key, .string (Piece.ofText value))

/-- The identifier. -/
def id : List Piece × Document := member "id" "1"

/-- The event type. -/
def event : List Piece × Document := member "event" "cycle.ended"

/-- The time, in UTC. -/
def utc : List Piece × Document := member "timestamp" leapDay.timestamp.toText

/-- The time, one hour ahead of UTC. -/
def ahead : List Piece × Document := member "timestamp" "2024-03-01T00:30:15.25+01:00"

/-- The data, in the other order. -/
def data : List Piece × Document :=
  (Piece.ofText "data", .object [(Piece.ofText "b", .bool true), (Piece.ofText "a", .null)])

/-- Metadata that is null. -/
def metadata : List Piece × Document := (Piece.ofText "metadata", .null)

/-- An unknown member. -/
def note : List Piece × Document := (Piece.ofText "note", .array [])

/-- Five changes make the one document of the other. -/
theorem edits : Relation.EqvGen Edit leapDay.document
    (.object [event, id, ahead, data, metadata, note]) := by
  have hdata : leapDay.data.document.Reorders data.2 := .members (by decide) (.swap _ _ _)
  -- the same instant in another offset
  have htime : Timestamp.SameInstant leapDay.timestamp.toText "2024-03-01T00:30:15.25+01:00" :=
    Timestamp.sameInstant_of_ofText? (t := leapDay.timestamp) (by decide +kernel)
      (by decide +kernel)
  have h₁ : Edit leapDay.document (.object [id, event, utc, data]) :=
    .reorder (@Document.Reorders.member [id, event, utc] [] _ _ _ hdata)
  have h₂ : Edit (.object [id, event, utc, data]) (.object [id, event, ahead, data]) :=
    @Edit.timestamp [id, event] [data] _ _ htime
  have h₃ : Edit (.object [id, event, ahead, data])
      (.object [id, event, ahead, data, metadata]) :=
    .pad (@Record.Pads.null names ["metadata"] [id, event, ahead, data] [] "metadata"
      (by decide) (by decide +kernel))
  have h₄ : Edit (.object [id, event, ahead, data, metadata])
      (.object [id, event, ahead, data, metadata, note]) :=
    .pad (@Record.Pads.unknown names ["metadata"] [id, event, ahead, data, metadata] [] "note"
      (.array []) (by decide))
  have h₅ : Edit (.object [id, event, ahead, data, metadata, note])
      (.object [event, id, ahead, data, metadata, note]) :=
    .reorder (.members (by decide +kernel) (.swap _ _ _))
  exact .trans _ _ _ (.rel _ _ h₁) (.trans _ _ _ (.rel _ _ h₂) (.trans _ _ _ (.rel _ _ h₃)
    (.trans _ _ _ (.rel _ _ h₄) (.rel _ _ h₅))))

set_option maxRecDepth 4000 in
/-- The event is read from the other wording of its text, and accepts its own signature there. -/
theorem parse_text : parse leapDay.canonicalText = some leapDay ∧
    ∃ e', parse text = some e' ∧ e' = leapDay ∧ e'.verify (leapDay.sign "s") "s" = true := by
  have hparse : parse leapDay.canonicalText = some leapDay := by
    rw [parse, parse_canonicalText, Option.bind_some]
    decide +kernel
  have hcanonical : Document.IsTextOf leapDay.canonicalText leapDay.document :=
    Document.parse_eq_some_iff.1 leapDay.parse_canonicalText
  have htext : Document.IsTextOf text (.object [event, id, ahead, data, metadata, note]) :=
    Document.parse_eq_some_iff.1 (by rfl)
  obtain ⟨-, hreworded⟩ := parse_rewording hparse
  obtain ⟨e', he', heq, hpayload, -⟩ := hreworded text ⟨_, _, hcanonical, htext, edits⟩
  exact ⟨hparse, e', he', heq, verify_sign hpayload "s"⟩

end LeapDay

end Envelope

end Webhook
