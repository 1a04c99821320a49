import Webhook.Endpoint.Text
import Webhook.Proofs.Event.Rereading
import Webhook.Proofs.Json.Forms

/-!
# The round trip of configuration

Retry policies, metadata, endpoints, and what registers and changes an endpoint are read back from
their texts as they are, whatever they hold (`Endpoint.configuration_reread`). A record has the form
of its document: its fields under their names, each in the form of its own type, with null for one
that is absent from a `New` or an `Update`. So an absent field is read back as absent, and an empty
list, map or text as the empty one that it is.
-/

namespace Webhook

open Json

/-- Fields with just the names of a record are read back as they are. -/
theorem Json.Record.ofDocument?_of_keys {names : List String} {fields : Record}
    (hkeys : fields.map Prod.fst = names) (hnodup : names.Nodup) :
    ofDocument? names (.ofFields fields) = some fields := by
  subst hkeys
  exact ofDocument?_ofFields (fun _ hname => hname) hnodup

/-- An optional field, written in full or as null, spells its document. -/
theorem Json.Form.spells_printOption {α : Type} (f : Form α) (x : Option α) :
    Spells (printOption f.print x) (f.documentOption x) := by
  cases x with
  | none => exact .null
  | some a => exact f.spells a

/-! ## Event types -/

namespace EventType

/-- Event types, by name. -/
def form : Form EventType where
  print t := printString t.name
  document t := .string (Piece.ofText t.name)
  read := ofDocument?
  spells t := .string t.name
  read_document := ofDocument?_name
  document_ne_null _ := Document.noConfusion

/-- Lists of event types. -/
def listForm : Form (List EventType) := form.list

/-- No event type is listed twice. -/
theorem nodup_all : all.Nodup := by decide

end EventType

/-- A set is the set of the event types in it. -/
theorem EventSet.ofList_members (s : EventSet) : ofList s.members = s := by
  have hself : s.members.filter s.members.contains = s.members := List.filter_eq_self.2 (by simp)
  have hsublist : s.members.Sublist (EventType.all.filter s.members.contains) := by
    have h := s.sublist.filter s.members.contains
    rwa [hself] at h
  -- nothing else passes the filter, and no event type is listed twice
  have hlength : (EventType.all.filter s.members.contains).length ≤ s.members.length := by
    refine (List.subperm_of_subset (EventType.nodup_all.filter _) fun t ht => ?_).length_le
    simpa using (List.mem_filter.1 ht).2
  have hmembers := hsublist.eq_of_length_le hlength
  obtain ⟨members, sublist⟩ := s
  simp only [ofList, ← hmembers]

/-! ## Retry policies -/

namespace RetryPolicy

/-- The members of a retry policy, as documents. -/
def fields (p : RetryPolicy) : Record :=
  [("maxRetries", Form.natural.document p.maxRetries.toNat),
    ("retryDelayMs", Form.natural.document p.retryDelayMs.toNat)]

/-- A retry policy is read back from its fields. -/
theorem ofDocument?_fields (p : RetryPolicy) : ofDocument? (.ofFields p.fields) = some p := by
  have hrecord : Record.ofDocument? ["maxRetries", "retryDelayMs"] (.ofFields p.fields) =
      some p.fields :=
    Record.ofDocument?_of_keys rfl (by decide)
  have hretries : p.fields.required "maxRetries" Document.natural? = some p.maxRetries.toNat :=
    Form.natural.required_eq rfl
  have hdelay : p.fields.required "retryDelayMs" Document.natural? = some p.retryDelayMs.toNat :=
    Form.natural.required_eq rfl
  -- both numbers are those of words, so that none is out of range
  have hbounds : p.maxRetries.toNat < UInt32.size ∧ p.retryDelayMs.toNat < UInt64.size :=
    ⟨p.maxRetries.toNat_lt, p.retryDelayMs.toNat_lt⟩
  unfold ofDocument?
  rw [hrecord]
  simp only [Option.bind_eq_bind, Option.bind_some, hretries, hdelay]
  rw [if_pos hbounds, UInt32.ofNat_toNat, UInt64.ofNat_toNat]

/-- Retry policies. -/
def form : Form RetryPolicy where
  print := print
  document p := .ofFields p.fields
  read := ofDocument?
  spells p := .fields (.cons ⟨rfl, Form.natural.spells p.maxRetries.toNat⟩
    (.cons ⟨rfl, Form.natural.spells p.retryDelayMs.toNat⟩ .nil))
  read_document := ofDocument?_fields
  document_ne_null _ := Document.noConfusion

end RetryPolicy

/-- Metadata. -/
def Metadata.form : Form Metadata where
  print := print
  document := document
  read := ofDocument?
  spells := spells_print
  read_document := ofDocument?_document
  document_ne_null _ := Document.noConfusion

/-! ## Endpoints -/

namespace Endpoint

/-- The members of what registers an endpoint, as documents. -/
def New.fields (n : New) : Record :=
  [("url", Form.text.document n.url), ("events", EventType.listForm.document n.events),
    ("secret", Form.text.documentOption n.secret),
    ("enabled", Form.bool.documentOption n.enabled),
    ("retryPolicy", RetryPolicy.form.documentOption n.retryPolicy),
    ("headers", Form.textMap.document n.headers)]

/-- The configuration of a new endpoint is read back from its fields. -/
theorem New.ofDocument?_fields (n : New) : ofDocument? (.ofFields n.fields) = some n := by
  have hrecord : Record.ofDocument?
      ["url", "events", "secret", "enabled", "retryPolicy", "headers"] (.ofFields n.fields) =
      some n.fields :=
    Record.ofDocument?_of_keys rfl (by decide)
  -- each field is read back by its own form, found under its own name
  have hurl : n.fields.required "url" Document.text? = some n.url :=
    Form.text.required_eq rfl
  have hevents : n.fields.required "events" EventType.listOfDocument? = some n.events :=
    EventType.listForm.required_eq rfl
  have hsecret : n.fields.optional "secret" Document.text? = some n.secret :=
    Form.text.optional_eq rfl
  have henabled : n.fields.optional "enabled" Document.bool? = some n.enabled :=
    Form.bool.optional_eq rfl
  have hretryPolicy : n.fields.optional "retryPolicy" RetryPolicy.ofDocument? =
      some n.retryPolicy :=
    RetryPolicy.form.optional_eq rfl
  have hheaders : n.fields.withDefault "headers" Dictionary.empty Document.textMap? =
      some n.headers :=
    Form.textMap.withDefault_eq rfl _
  unfold ofDocument?
  rw [hrecord]
  simp only [Option.bind_eq_bind, Option.bind_some, hurl, hevents, hsecret, henabled,
    hretryPolicy, hheaders]
  rfl

/-- What registers an endpoint. -/
def New.form : Form New where
  print := print
  document n := .ofFields n.fields
  read := ofDocument?
  spells n := .fields (.cons ⟨rfl, Form.text.spells n.url⟩
    (.cons ⟨rfl, EventType.listForm.spells n.events⟩
    (.cons ⟨rfl, Form.text.spells_printOption n.secret⟩
    (.cons ⟨rfl, Form.bool.spells_printOption n.enabled⟩
    (.cons ⟨rfl, RetryPolicy.form.spells_printOption n.retryPolicy⟩
    (.cons ⟨rfl, Form.textMap.spells n.headers⟩ .nil))))))
  read_document := ofDocument?_fields
  document_ne_null _ := Document.noConfusion

/-- The members of a change, as documents. -/
def Update.fields (u : Update) : Record :=
  [("url", Form.text.documentOption u.url), ("secret", Form.text.documentOption u.secret),
    ("events", EventType.listForm.documentOption u.events),
    ("enabled", Form.bool.documentOption u.enabled),
    ("retryPolicy", RetryPolicy.form.documentOption u.retryPolicy),
    ("headers", Form.textMap.documentOption u.headers)]

/-- An update is read back from its fields. -/
theorem Update.ofDocument?_fields (u : Update) : ofDocument? (.ofFields u.fields) = some u := by
  have hrecord : Record.ofDocument?
      ["url", "secret", "events", "enabled", "retryPolicy", "headers"] (.ofFields u.fields) =
      some u.fields :=
    Record.ofDocument?_of_keys rfl (by decide)
  -- each field is read back by its own form; one that is not given is null, and so is read as not
  -- given
  have hurl : u.fields.optional "url" Document.text? = some u.url :=
    Form.text.optional_eq rfl
  have hsecret : u.fields.optional "secret" Document.text? = some u.secret :=
    Form.text.optional_eq rfl
  have hevents : u.fields.optional "events" EventType.listOfDocument? = some u.events :=
    EventType.listForm.optional_eq rfl
  have henabled : u.fields.optional "enabled" Document.bool? = some u.enabled :=
    Form.bool.optional_eq rfl
  have hretryPolicy : u.fields.optional "retryPolicy" RetryPolicy.ofDocument? =
      some u.retryPolicy :=
    RetryPolicy.form.optional_eq rfl
  have hheaders : u.fields.optional "headers" Document.textMap? = some u.headers :=
    Form.textMap.optional_eq rfl
  unfold ofDocument?
  rw [hrecord]
  simp only [Option.bind_eq_bind, Option.bind_some, hurl, hsecret, hevents, henabled,
    hretryPolicy, hheaders]
  rfl

/-- Changes. -/
def Update.form : Form Update where
  print := print
  document u := .ofFields u.fields
  read := ofDocument?
  spells u := .fields (.cons ⟨rfl, Form.text.spells_printOption u.url⟩
    (.cons ⟨rfl, Form.text.spells_printOption u.secret⟩
    (.cons ⟨rfl, EventType.listForm.spells_printOption u.events⟩
    (.cons ⟨rfl, Form.bool.spells_printOption u.enabled⟩
    (.cons ⟨rfl, RetryPolicy.form.spells_printOption u.retryPolicy⟩
    (.cons ⟨rfl, Form.textMap.spells_printOption u.headers⟩ .nil))))))
  read_document := ofDocument?_fields
  document_ne_null _ := Document.noConfusion

/-- The members of an endpoint, as documents. -/
def fields (e : Endpoint) : Record :=
  [("id", Form.text.document e.id.text), ("url", Form.text.document e.url),
    ("secret", Form.text.document e.secret),
    ("events", EventType.listForm.document e.events.members),
    ("enabled", Form.bool.document e.enabled),
    ("retryPolicy", RetryPolicy.form.document e.retryPolicy),
    ("headers", Form.textMap.document e.headers)]

/-- An endpoint is read back from its fields. -/
theorem ofDocument?_fields (e : Endpoint) : ofDocument? (.ofFields e.fields) = some e := by
  have hrecord : Record.ofDocument?
      ["id", "url", "secret", "events", "enabled", "retryPolicy", "headers"]
      (.ofFields e.fields) = some e.fields :=
    Record.ofDocument?_of_keys rfl (by decide)
  -- each field is read back by its own form, found under its own name
  have hid : e.fields.required "id" Document.text? = some e.id.text :=
    Form.text.required_eq rfl
  have hurl : e.fields.required "url" Document.text? = some e.url :=
    Form.text.required_eq rfl
  have hsecret : e.fields.required "secret" Document.text? = some e.secret :=
    Form.text.required_eq rfl
  have hevents : e.fields.required "events" EventType.listOfDocument? = some e.events.members :=
    EventType.listForm.required_eq rfl
  have henabled : e.fields.required "enabled" Document.bool? = some e.enabled :=
    Form.bool.required_eq rfl
  have hretryPolicy : e.fields.required "retryPolicy" RetryPolicy.ofDocument? =
      some e.retryPolicy :=
    RetryPolicy.form.required_eq rfl
  have hheaders : e.fields.withDefault "headers" Dictionary.empty Document.textMap? =
      some e.headers :=
    Form.textMap.withDefault_eq rfl _
  unfold ofDocument?
  rw [hrecord]
  simp only [Option.bind_eq_bind, Option.bind_some, hid, hurl, hsecret, hevents, henabled,
    hretryPolicy, hheaders, EventSet.ofList_members]
  rfl

/-- Endpoints. -/
def form : Form Endpoint where
  print := print
  document e := .ofFields e.fields
  read := ofDocument?
  spells e := .fields (.cons ⟨rfl, Form.text.spells e.id.text⟩
    (.cons ⟨rfl, Form.text.spells e.url⟩
    (.cons ⟨rfl, Form.text.spells e.secret⟩
    (.cons ⟨rfl, EventType.listForm.spells e.events.members⟩
    (.cons ⟨rfl, Form.bool.spells e.enabled⟩
    (.cons ⟨rfl, RetryPolicy.form.spells e.retryPolicy⟩
    (.cons ⟨rfl, Form.textMap.spells e.headers⟩ .nil)))))))
  read_document := ofDocument?_fields
  document_ne_null _ := Document.noConfusion

/-! ## The round trip -/

/-- Every retry policy, every metadata, everything that registers or changes an endpoint, and every
endpoint is read back from its text as it is. -/
theorem configuration_reread :
    (∀ p : RetryPolicy,
      (Document.parse (String.ofList p.print)).bind RetryPolicy.ofDocument? = some p) ∧
    (∀ m : Metadata,
      (Document.parse (String.ofList m.print)).bind Metadata.ofDocument? = some m) ∧
    (∀ n : New, (Document.parse (String.ofList n.print)).bind New.ofDocument? = some n) ∧
    (∀ u : Update, (Document.parse (String.ofList u.print)).bind Update.ofDocument? = some u) ∧
    (∀ e : Endpoint, (Document.parse (String.ofList e.print)).bind ofDocument? = some e) :=
  ⟨RetryPolicy.form.read_parse, Metadata.form.read_parse, New.form.read_parse,
    Update.form.read_parse, form.read_parse⟩

end Endpoint

end Webhook
