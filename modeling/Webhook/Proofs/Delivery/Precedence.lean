import Webhook.Proofs.Delivery.Requests
import Webhook.Proofs.Event.Rereading
import Webhook.Proofs.Registry.Validity

/-!
# Which header wins

A delivery sets the headers of every request, and then the endpoint's own in the order of their
names. So an own header replaces one of every request that has the same name up to case, and of
several own headers that differ in case only, the one with the greatest name is left
(`HasPrecedence`). All of them are headers, since the endpoint is valid. Of those of every request
only the name of the sender comes from a setting that nothing checks, so that no other can be
missing (`Delivery.headers_by_precedence`).
-/

namespace Webhook

/-! ## Printable characters -/

namespace Text

/-- All characters are printable ones of ASCII. -/
def IsPrintable (cs : List Char) : Prop := ∀ c ∈ cs, 0x20 ≤ c.toNat ∧ c.toNat < 0x7F

namespace IsPrintable

variable {cs ds : List Char} {c : Char}

/-- Printable texts one after the other are printable. -/
theorem append (hc : IsPrintable cs) (hd : IsPrintable ds) : IsPrintable (cs ++ ds) :=
  List.forall_mem_append.2 ⟨hc, hd⟩

/-- A printable character before a printable text makes one. -/
theorem cons (hc : 0x20 ≤ c.toNat ∧ c.toNat < 0x7F) (hd : IsPrintable ds) :
    IsPrintable (c :: ds) := List.forall_mem_cons.2 ⟨hc, hd⟩

/-- Printable characters make a value of a header. -/
theorem isHeaderValue {s : String} (h : IsPrintable s.toList) : isHeaderValue s = true := by
  unfold Webhook.isHeaderValue
  rw [List.all_eq_true]
  intro c hc
  obtain ⟨hfirst, hlast⟩ := h c hc
  have hne : c.toNat ≠ 0x7F := by omega
  simp [hfirst, hne]

/-- A decimal digit is printable. -/
theorem of_isDigit (h : c.isDigit = true) : 0x20 ≤ c.toNat ∧ c.toNat < 0x7F := by
  obtain ⟨hfirst, hlast⟩ := Char.isDigit_iff_toNat.1 h
  have hzero : '0'.toNat = 0x30 := rfl
  have hnine : '9'.toNat = 0x39 := rfl
  omega

end IsPrintable

end Text

open Text (IsPrintable)

namespace Timestamp

/-- A padded number is printable. -/
theorem isPrintable_padded (w n : Nat) : IsPrintable (padded w n) := fun _ hc =>
  IsPrintable.of_isDigit (isDigit_of_mem_padded hc)

/-- A year is printable. -/
theorem isPrintable_printYear (year : Int) : IsPrintable (printYear year) := by
  unfold printYear
  split
  · exact .cons (by decide) (isPrintable_padded _ _)
  split
  · exact .cons (by decide) (isPrintable_padded _ _)
  · exact isPrintable_padded _ _

/-- The text of a timestamp may be the value of a header. -/
theorem isHeaderValue_toText (t : Timestamp) : isHeaderValue t.toText = true := by
  have hpart : ∀ {mark : Char} {w n : Nat}, 0x20 ≤ mark.toNat ∧ mark.toNat < 0x7F →
      IsPrintable (mark :: padded w n) := fun hmark => .cons hmark (isPrintable_padded _ _)
  refine IsPrintable.isHeaderValue ?_
  rw [toText, String.toList_ofList]
  -- year, month, day, hour, minute, second and fraction, each with the mark before it
  exact (((((((isPrintable_printYear _).append (hpart (by decide))).append
    (hpart (by decide))).append (hpart (by decide))).append (hpart (by decide))).append
    (hpart (by decide))).append (hpart (by decide))).append
      (.cons (by decide) (by simp [IsPrintable]))

end Timestamp

namespace EventId

/-- The text is that of a UUID: 36 characters, four of them hyphens at fixed places, and
lower-case hexadecimal digits at all others. -/
def isUuid (id : EventId) : Bool :=
  id.text.toList.length == 36 && id.text.toList.zipIdx.all fun (c, i) =>
    if [8, 13, 18, 23].contains i then c == '-' else c.isDigit || ('a' ≤ c && c ≤ 'f')

/-- The text of a UUID may be the value of a header. -/
theorem isHeaderValue_of_isUuid {id : EventId} (h : id.isUuid = true) :
    isHeaderValue id.text = true := by
  refine IsPrintable.isHeaderValue fun c hc => ?_
  obtain ⟨i, hi, rfl⟩ := List.mem_iff_getElem.1 hc
  have hchar := List.all_eq_true.1 (Bool.and_eq_true_iff.1 h).2 (id.text.toList[i], i)
    (List.mem_iff_getElem.2 ⟨i, by simpa using hi, by simp⟩)
  dsimp only at hchar
  -- a character is a mark at one of the four places of marks, and a digit elsewhere
  split at hchar
  · rw [beq_iff_eq.1 hchar]
    decide
  · rcases Bool.or_eq_true_iff.1 hchar with hdigit | hletter
    · exact IsPrintable.of_isDigit hdigit
    · simp only [Bool.and_eq_true, decide_eq_true_eq] at hletter
      have hfirst : 0x61 ≤ id.text.toList[i].toNat := hletter.1
      have hlast : id.text.toList[i].toNat ≤ 0x66 := hletter.2
      omega

end EventId

/-- The characters of the name of a header are of ASCII. -/
theorem toNat_lt_of_isHeaderName {name : String} (h : isHeaderName name = true) :
    ∀ c ∈ name.toList, c.toNat < 0x80 := by
  intro c hc
  obtain ⟨-, hall⟩ := Bool.and_eq_true_iff.1 h
  -- letters, digits and marks are all ASCII
  rcases Bool.or_eq_true_iff.1 (List.all_eq_true.1 hall c hc) with halnum | hmark
  · rcases Bool.or_eq_true_iff.1 halnum with halpha | hdigit
    · rcases Bool.or_eq_true_iff.1 halpha with hupper | hlower
      · have hlast : c.toNat ≤ 'Z'.toNat := (of_decide_eq_true hupper).2
        exact Nat.lt_of_le_of_lt hlast (by decide)
      · have hlast : c.toNat ≤ 'z'.toNat := of_decide_eq_true (Bool.and_eq_true_iff.1 hlower).2
        exact Nat.lt_of_le_of_lt hlast (by decide)
    · exact Nat.lt_trans (IsPrintable.of_isDigit hdigit).2 (by decide)
  · have hmarks : headerNameMarks.all (fun c => c.toNat < 0x80) = true := by decide
    exact of_decide_eq_true (List.all_eq_true.1 hmarks c (List.contains_iff_mem.1 hmark))

/-! ## Own headers -/

namespace Endpoint

variable {e : Endpoint} {h : String × String}

/-- Among the endpoint's own headers of this name up to case, the header is the one whose name is
the greatest in the order of bytes. -/
structure IsGreatest (e : Endpoint) (h : String × String) : Prop where
  mem : h ∈ e.headers.entries
  le : ∀ own ∈ e.headers.entries, Text.sameIgnoringCase own.1 h.1 = true →
    Text.utf8 own.1 ≤ Text.utf8 h.1

/-- Of the own headers of a name, the last one in the order of their names is the greatest, and it
counts. -/
theorem IsValid.exists_isGreatest (hv : e.IsValid) (hown : h ∈ e.headers.entries) :
    ∃ g, e.IsGreatest g ∧ Text.sameIgnoringCase g.1 h.1 = true ∧
      lastValue? (fun own => HeaderMap.isLegal own && Text.lower own.1 == Text.lower h.1)
        e.headers.entries = some g.2 ∧
      ∀ g', e.IsGreatest g' → Text.sameIgnoringCase g'.1 h.1 = true → g' = g := by
  have hlegal : ∀ own ∈ e.headers.entries, HeaderMap.isLegal own = true := fun own hmem =>
    Bool.and_eq_true_iff.2 (hv.headers own hmem)
  have hascii : ∀ own ∈ e.headers.entries, ∀ c ∈ own.1.toList, c.toNat < 0x80 := fun own hmem =>
    toNat_lt_of_isHeaderName (hv.headers own hmem).1
  obtain ⟨g, hg, hname, hlast, hless⟩ := Entries.exists_getLast?_filter e.headers.sorted
    (p := fun own => HeaderMap.isLegal own && Text.lower own.1 == Text.lower h.1) hown
    (by simp [hlegal h hown])
  have hsame : Text.sameIgnoringCase g.1 h.1 = true := (Bool.and_eq_true_iff.1 hname).2
  -- an own header of the name is this one, or its name has smaller bytes
  have hbytes : ∀ own ∈ e.headers.entries, Text.sameIgnoringCase own.1 h.1 = true →
      own = g ∨ Text.utf8 own.1 < Text.utf8 g.1 := by
    intro own hmem hsameOwn
    rcases hless own hmem (Bool.and_eq_true_iff.2 ⟨hlegal own hmem, hsameOwn⟩) with heq | hlt
    · exact .inl heq
    · exact .inr (Text.utf8_lt_utf8 (hascii own hmem) (hascii g hg) hlt)
  refine ⟨g, ⟨hg, fun own hmem howng => ?_⟩, hsame, ?_, fun g' hg' hsame' => ?_⟩
  · rcases hbytes own hmem (Text.sameIgnoringCase_trans howng hsame) with rfl | hlt
    · exact List.le_refl _
    · exact List.le_of_lt hlt
  · rw [lastValue?, hlast]
    rfl
  · refine (hbytes g' hg'.mem hsame').resolve_right fun hlt => ?_
    have hgg' := Text.sameIgnoringCase_trans hsame (Text.sameIgnoringCase_symm hsame')
    exact hg'.le g hg hgg' hlt

end Endpoint

/-! ## Precedence -/

/-- Headers hold one value for each name up to case: that of the endpoint's own headers, or else
that of the default ones. -/
structure HasPrecedence (headers : HeaderMap) (defaults : HeaderList) (e : Endpoint) : Prop where
  /-- No two headers have names that are the same up to case. -/
  unique : ∀ h ∈ headers.entries, ∀ h' ∈ headers.entries,
    Text.sameIgnoringCase h.1 h'.1 = true → h = h'
  /-- The greatest of the own headers of a name comes before all others of that name. -/
  own : ∀ g, e.IsGreatest g → headers.get? (Text.lower g.1) = some g.2
  /-- There is a greatest one for the name of each own header, so that no name is left out. -/
  sent : ∀ h ∈ e.headers.entries, ∃ g, e.IsGreatest g ∧ Text.sameIgnoringCase g.1 h.1 = true
  /-- Where the endpoint has no header of the name, the default one counts. -/
  default : ∀ h ∈ defaults, e.Lacks h.1 → (h.1 = "user-agent" → isHeaderValue h.2 = true) →
    headers.get? (Text.lower h.1) = some h.2
  /-- Only the name of the sender may be missing, if it is no value of a header. -/
  missing : ∀ h ∈ defaults, headers.get? (Text.lower h.1) = none ↔
    h.1 = "user-agent" ∧ isHeaderValue h.2 = false ∧ e.Lacks h.1
  /-- There are no other names. -/
  source : ∀ h ∈ headers.entries,
    ∃ given ∈ defaults ++ e.headers.entries, Text.sameIgnoringCase given.1 h.1 = true

section Precedence

variable {userAgent signature : String} {envelope : Envelope} {e : Endpoint}

/-- An own header that is the greatest of its name is sent. -/
theorem get?_deliveryHeaders_of_isGreatest (hv : e.IsValid) {g : String × String}
    (hg : e.IsGreatest g) :
    (deliveryHeaders userAgent signature envelope e).get? (Text.lower g.1) = some g.2 := by
  obtain ⟨g', -, -, hlast, hunique⟩ := hv.exists_isGreatest hg.mem
  obtain rfl := hunique g hg (Text.sameIgnoringCase_iff.2 rfl)
  rw [deliveryHeaders, HeaderMap.get?_foldl_set, lastValue?_append, hlast, Option.some_or]

/-- Of the headers of every request, only that of the sender may have a value that is none. -/
theorem isLegal_defaultHeaders {bytes : Bytes} (hid : isHeaderValue envelope.id.text = true)
    {h : String × String}
    (hmem : h ∈ defaultHeaders userAgent (Text.Hex.encode bytes) envelope) :
    HeaderMap.isLegal h = false ↔ h.1 = "user-agent" ∧ isHeaderValue h.2 = false := by
  have hevent : isHeaderValue envelope.eventType.name = true := by
    cases envelope.eventType <;> decide
  have hnames : ∀ name ∈ ["content-type", signatureHeader, eventHeader, idHeader, timestampHeader,
      "user-agent"], isHeaderName name = true := by
    decide
  simp only [defaultHeaders, List.mem_cons, List.not_mem_nil, or_false] at hmem
  -- of the six, only the last has a value that comes from outside and may be illegal
  rcases hmem with rfl | rfl | rfl | rfl | rfl | rfl
  · decide
  · simp [HeaderMap.isLegal, hnames, isHeaderValue_encode]
  · simp [HeaderMap.isLegal, hnames, hevent]
  · simp [HeaderMap.isLegal, hnames, hid]
  · simp [HeaderMap.isLegal, hnames, envelope.timestamp.isHeaderValue_toText]
  · simp [HeaderMap.isLegal, hnames]

/-- The headers of a delivery to a valid endpoint have precedence as they should. -/
theorem hasPrecedence_deliveryHeaders (hv : e.IsValid) (bytes : Bytes)
    (hid : isHeaderValue envelope.id.text = true) :
    HasPrecedence (deliveryHeaders userAgent (Text.Hex.encode bytes) envelope e)
      (defaultHeaders userAgent (Text.Hex.encode bytes) envelope) e where
  unique := by
    intro h hh h' hh' hsame
    have hkeys : h.1 = h'.1 := by
      rw [← lowered_deliveryHeaders h hh, ← lowered_deliveryHeaders h' hh']
      exact Text.sameIgnoringCase_iff.1 hsame
    have hvalue := (Dictionary.get?_eq_some_iff _).2 hh
    rw [hkeys, (Dictionary.get?_eq_some_iff _).2 hh'] at hvalue
    exact Prod.ext hkeys (Option.some.inj hvalue).symm
  own _ hg := get?_deliveryHeaders_of_isGreatest hv hg
  sent h hown := by
    obtain ⟨g, hg, hsame, -⟩ := hv.exists_isGreatest hown
    exact ⟨g, hg, hsame⟩
  -- without an own header of the name, the default is there unless it is illegal
  default := by
    intro h hmem hlacks hvalue
    have hlegal : HeaderMap.isLegal h = true := by
      refine Bool.eq_true_of_not_eq_false fun hfalse => ?_
      obtain ⟨hname, hno⟩ := (isLegal_defaultHeaders hid hmem).1 hfalse
      rw [hvalue hname] at hno
      cases hno
    rw [get?_deliveryHeaders hmem hlacks, if_pos hlegal]
  missing := by
    intro h hmem
    by_cases hlacks : e.Lacks h.1
    · rw [get?_deliveryHeaders hmem hlacks, ← and_assoc, ← isLegal_defaultHeaders hid hmem]
      cases HeaderMap.isLegal h <;> simp [hlacks]
    · -- an own header takes its place
      obtain ⟨own, hown, hsame⟩ : ∃ own ∈ e.headers.entries,
          Text.sameIgnoringCase own.1 h.1 = true := by
        simpa [Endpoint.Lacks] using hlacks
      obtain ⟨g, hg, hgown, -⟩ := hv.exists_isGreatest hown
      have hname : Text.lower g.1 = Text.lower h.1 :=
        Text.sameIgnoringCase_iff.1 (Text.sameIgnoringCase_trans hgown hsame)
      rw [← hname, get?_deliveryHeaders_of_isGreatest hv hg]
      simp [hlacks]
  -- whatever is sent was set by a default or by an own header
  source := by
    intro h hh
    have hvalue := (Dictionary.get?_eq_some_iff _).2 hh
    rw [deliveryHeaders, HeaderMap.get?_foldl_set] at hvalue
    obtain ⟨given, hgiven, htest⟩ := exists_of_lastValue? hvalue
    have hname : Text.lower given.1 = h.1 := beq_iff_eq.1 (Bool.and_eq_true_iff.1 htest).2
    refine ⟨given, hgiven, ?_⟩
    rw [Text.sameIgnoringCase_iff, hname, lowered_deliveryHeaders h hh]

end Precedence

/-! ## Deliveries -/

namespace Envelope

/-- The text of the time in the bytes of an envelope. -/
def timestampText? (payload : Bytes) : Option String := do
  let cs ← Text.ofUtf8? payload
  let d ← Json.Document.parse (String.ofList cs)
  let r ← Json.Record.ofDocument? ["id", "event", "timestamp", "data", "metadata"] d
  r.required "timestamp" Json.Document.text?

/-- The timestamp of the payload is that of the envelope. -/
theorem timestampText?_canonicalPayload (e : Envelope) :
    timestampText? e.canonicalPayload = some e.timestamp.toText := by
  rw [timestampText?, canonicalPayload, Text.ofUtf8?_utf8]
  simp only [Option.bind_eq_bind, Option.bind_some, String.ofList_toList, parse_canonicalText,
    record_document, required_timestamp]

end Envelope

/-- The headers of a delivery of a new envelope to a registered endpoint, whatever the sender is
called: those of every request, among them the signature of the body and the text of the time in it,
and the endpoint's own, which come first. The identifiers of envelopes are UUIDs. -/
theorem Delivery.headers_by_precedence (defaultRetry : RetryPolicy) (calls : List Registry.Call)
    {e : Endpoint} (he : e ∈ ((Registry.empty defaultRetry).after calls).list) (userAgent : String)
    {id : EventId} (hid : id.isUuid = true) (clock : Timestamp) (eventType : EventType)
    (data : Json.Object) (metadata : Option Metadata) :
    let envelope := Envelope.new id clock eventType data metadata
    let body := envelope.canonicalPayload
    let signature := Signature.compute (Text.utf8 e.secret) body
    HasPrecedence (deliveryHeaders userAgent signature envelope e)
        [("content-type", "application/json"), ("X-Webhook-Signature", signature),
          ("X-Webhook-Event", eventType.name), ("X-Webhook-Id", id.text),
          ("X-Webhook-Timestamp", envelope.timestamp.toText), ("user-agent", userAgent)] e ∧
      Envelope.timestampText? body = some envelope.timestamp.toText := by
  intro envelope body signature
  have hvalid : e.IsValid :=
    ((Registry.isSound_empty defaultRetry).after calls).valid e he
  exact ⟨hasPrecedence_deliveryHeaders hvalid _ (EventId.isHeaderValue_of_isUuid hid),
    envelope.timestampText?_canonicalPayload⟩

namespace Registry.Sample

/-- An endpoint with three headers of its own, of which two have names that differ in case only and
one is also a header of every request. -/
def team : List Call :=
  [.act (.register (draw "two") { hook with
    headers := Dictionary.ofList
      [("X-Team", "savings"), ("x-team", "payouts"), ("CONTENT-TYPE", "text/plain")] })]

/-- Of the two headers the one in lower case is sent, the content type is that of the endpoint, and
the name of a sender that has a line break is left out. -/
theorem headers_by_precedence_team : ∃ e ∈ ((empty ⟨3, 1⟩).after team).list,
    let envelope := sampleEnvelope "0f9d2c1e-5b7a-4c3d-8e6f-1a2b3c4d5e6f"
    let headers := deliveryHeaders "ajo\n" (envelope.sign e.secret) envelope e
    envelope.id.isUuid = true ∧
      headers.get? (Text.lower "x-team") = some "payouts" ∧
      headers.get? (Text.lower "CONTENT-TYPE") = some "text/plain" ∧
      headers.get? (Text.lower "user-agent") = none ∧
      headers.get? (Text.lower "X-Webhook-Timestamp") = some "2026-01-01T00:00:00.000Z" := by
  have hregistered : ∃ e ∈ ((empty ⟨3, 1⟩).after team).list, e.headers.entries =
      [("CONTENT-TYPE", "text/plain"), ("X-Team", "savings"), ("x-team", "payouts")] := by
    decide +kernel
  obtain ⟨e, he, hown⟩ := hregistered
  have hid : (sampleEnvelope "0f9d2c1e-5b7a-4c3d-8e6f-1a2b3c4d5e6f").id.isUuid = true := by decide
  obtain ⟨hprecedence, -⟩ := Delivery.headers_by_precedence ⟨3, 1⟩ team he "ajo\n" hid
    ⟨⟨2026, 1, 1, by decide, by decide⟩, 0, 0, 0, by decide, by decide, by decide⟩ .groupCreated
    Json.Object.empty none
  -- both own spellings are there, and the greater one counts
  have hteam : e.IsGreatest ("x-team", "payouts") :=
    ⟨by simp [hown], by rw [hown]; decide⟩
  have htype : e.IsGreatest ("CONTENT-TYPE", "text/plain") :=
    ⟨by simp [hown], by rw [hown]; decide⟩
  have hlacks : ∀ name ∈ ["user-agent", "X-Webhook-Timestamp"], e.Lacks name := by
    unfold Endpoint.Lacks
    rw [hown]
    decide
  have htime : (sampleEnvelope "0f9d2c1e-5b7a-4c3d-8e6f-1a2b3c4d5e6f").timestamp.toText =
      "2026-01-01T00:00:00.000Z" := by decide
  have hsentTeam := hprecedence.own _ hteam
  have hsentType := hprecedence.own _ htype
  have hmissing := (hprecedence.missing ("user-agent", "ajo\n") (by simp)).2
    ⟨rfl, by decide, hlacks _ (by simp)⟩
  have hsentTime := hprecedence.default ("X-Webhook-Timestamp", _)
    (.tail _ (.tail _ (.tail _ (.tail _ (.head _))))) (hlacks _ (by simp)) (by simp)
  have hvalue := hsentTime.trans (congrArg some htime)
  exact ⟨e, he, hid, hsentTeam, hsentType, hmissing, hvalue⟩

end Registry.Sample

end Webhook
