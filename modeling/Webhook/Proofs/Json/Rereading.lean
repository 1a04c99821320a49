import Webhook.Proofs.Json.Magnitudes

/-!
# Printed values read back

The text of a value spells a document (`Value.spells_print`), and reading that document gives the
value back, up to its double-precision numbers: each of them is replaced by what its digits are read
as (`Value.reread`), and there is no result where one of these is out of range, or where the value
nests more containers than may be read (`Value.ofDocument?_document`). So a value is read back as
itself exactly when all its double-precision numbers are (`Value.reread_eq_self_iff`).
-/

namespace Webhook

/-! ## Sorted entries -/

namespace Entries

variable {α : Type}

/-- An entry with a key above all others is put at the end. -/
theorem put_of_sorted {entries : List (String × α)} {key : String} {value : α}
    (h : Sorted (entries ++ [(key, value)])) :
    put key value entries = entries ++ [(key, value)] := by
  induction entries with
  | nil => rfl
  | cons head rest ih =>
    obtain ⟨k, v⟩ := head
    obtain ⟨hk, hrest⟩ := List.pairwise_cons.1 h
    have hlt : k < key := hk (key, value) (by simp)
    simp only [put, List.cons_append]
    rw [if_neg (String.lt_asymm hlt), if_pos hlt, ih hrest]

/-- Sorted entries are the entries of a list of themselves. -/
theorem ofList_of_sorted {list : List (String × α)} (h : Sorted list) : ofList list = list := by
  have hfold : ∀ later earlier : List (String × α), Sorted (earlier ++ later) →
      later.foldl (fun acc e => put e.1 e.2 acc) earlier = earlier ++ later := by
    intro later
    -- what has been put so far stays in front
    induction later with
    | nil => simp
    | cons e later ih =>
      intro earlier hs
      have hfront : Sorted (earlier ++ [e]) := hs.sublist (by simp)
      rw [List.foldl_cons, put_of_sorted hfront, ih _ (by simpa using hs)]
      simp
  exact hfold list [] h

end Entries

namespace Json

/-! ## Depth -/

namespace Document

mutual

/-- How many containers of a document stand one inside another. -/
def depth : Document → Nat
  | .array items => depthItems items + 1
  | .object members => depthMembers members + 1
  | _ => 0

/-- The greatest depth of a sequence of documents. -/
def depthItems : List Document → Nat
  | [] => 0
  | d :: ds => max d.depth (depthItems ds)

/-- The greatest depth of the documents of members. -/
def depthMembers : List (List Piece × Document) → Nat
  | [] => 0
  | (_, d) :: ms => max d.depth (depthMembers ms)

end

/-- Members are no deeper than a bound when none of their documents is. -/
theorem depthMembers_le_iff {ms : List (List Piece × Document)} {n : Nat} :
    depthMembers ms ≤ n ↔ ∀ m ∈ ms, m.2.depth ≤ n := by
  induction ms with
  | nil => simp [depthMembers]
  | cons m ms ih =>
    obtain ⟨key, d⟩ := m
    rw [depthMembers, Nat.max_le, ih]
    simp

end Document

namespace Value

/-! ## Documents -/

mutual

/-- The document that the text of a value spells. -/
def document : Value → Document
  | .null => .null
  | .bool b => .bool b
  | .number n => .number n.numeral
  | .string s => .string (Piece.ofText s)
  | .array items => .array (documents items)
  | .object members => .object (memberDocuments members)

/-- The documents of a sequence of values. -/
def documents : List Value → List Document
  | [] => []
  | v :: vs => v.document :: documents vs

/-- The documents of members with their keys. -/
def memberDocuments : List (String × Value) → List (List Piece × Document)
  | [] => []
  | (k, v) :: ms => (Piece.ofText k, v.document) :: memberDocuments ms

end

mutual

/-- The text of a value spells its document. -/
theorem spells_print : (v : Value) → Spells v.print v.document
  | .null => .null
  | .bool b => .bool b
  | .number n => n.spells
  | .string s => .string s
  | .array items => .bracketed (spells_printItems items)
  | .object members => .braced (spells_printMembers members)

/-- Printed items spell the documents of the items. -/
theorem spells_printItems : (vs : List Value) → List.Forall₂ Spells (printItems vs) (documents vs)
  | [] => .nil
  | v :: vs => .cons v.spells_print (spells_printItems vs)

/-- Printed members spell the documents of the members. -/
theorem spells_printMembers : (ms : List (String × Value)) →
    List.Forall₂ SpellsMember (printMembers ms) (memberDocuments ms)
  | [] => .nil
  | (_, v) :: ms => .cons ⟨rfl, v.spells_print⟩ (spells_printMembers ms)

end

mutual

/-- Values with equal documents are equal. -/
theorem document_inj : (v w : Value) → v.document = w.document → v = w
  -- a document shows by its constructor from which kind of value it comes
  | .null, w, h | .bool _, w, h => by
    cases w <;> simp_all [document]
  | .number m, w, h => by
    cases w with
    | number n => rw [Number.numeral_injective (Document.number.inj h)]
    | _ => simp [document] at h
  | .string s, w, h => by
    cases w with
    | string t => rw [Piece.ofText_inj (Document.string.inj h)]
    | _ => simp [document] at h
  | .array vs, w, h => by
    cases w with
    | array ws => rw [documents_inj vs ws (Document.array.inj h)]
    | _ => simp [document] at h
  | .object ms, w, h => by
    cases w with
    | object ns => rw [memberDocuments_inj ms ns (Document.object.inj h)]
    | _ => simp [document] at h

/-- Lists of values with the same documents are the same. -/
theorem documents_inj : (vs ws : List Value) → documents vs = documents ws → vs = ws
  | [], [], _ => rfl
  | [], _ :: _, h | _ :: _, [], h => by simp [documents] at h
  | v :: vs, w :: ws, h => by
    obtain ⟨hv, hvs⟩ := List.cons.inj h
    rw [document_inj v w hv, documents_inj vs ws hvs]

/-- Members with the same documents are the same. -/
theorem memberDocuments_inj : (ms ns : List (String × Value)) →
    memberDocuments ms = memberDocuments ns → ms = ns
  | [], [], _ => rfl
  | [], _ :: _, h | _ :: _, [], h => by simp [memberDocuments] at h
  | (k, v) :: ms, (l, w) :: ns, h => by
    obtain ⟨hm, hms⟩ := List.cons.inj h
    obtain ⟨hk, hv⟩ := Prod.mk.inj hm
    rw [Piece.ofText_inj hk, document_inj v w hv, memberDocuments_inj ms ns hms]

end

/-! ## Reading back -/

mutual

/-- What the text of a value is read as, however deep it is: its double-precision numbers are read
anew. There is no result where one of them is read as none. -/
def reread : Value → Option Value
  | .null => some .null
  | .bool b => some (.bool b)
  | .number (.integer i) => some (.number (.integer i))
  | .number (.float x) => (rereadFloat x).map fun y => .number (.float y)
  | .string s => some (.string s)
  | .array items => (rereadItems items).map .array
  | .object members => (rereadMembers members).map .object

/-- What the texts of a sequence of values are read as. -/
def rereadItems : List Value → Option (List Value)
  | [] => some []
  | v :: vs => do return (← v.reread) :: (← rereadItems vs)

/-- What the texts of members are read as. -/
def rereadMembers : List (String × Value) → Option (List (String × Value))
  | [] => some []
  | (k, v) :: ms => do return (k, ← v.reread) :: (← rereadMembers ms)

end

/-- Reading members back keeps their keys. -/
theorem keys_of_rereadMembers {ms ms' : List (String × Value)} (h : rereadMembers ms = some ms') :
    ms'.map Prod.fst = ms.map Prod.fst := by
  induction ms generalizing ms' with
  | nil =>
    cases h
    rfl
  | cons m ms ih =>
    obtain ⟨k, v⟩ := m
    simp only [rereadMembers, Option.bind_eq_bind, Option.bind_eq_some_iff] at h
    obtain ⟨w, -, ms'', hms, he⟩ := h
    cases he
    simp [ih hms]

/-- Rereading keeps the keys, and so their order. -/
theorem sorted_of_rereadMembers {ms ms' : List (String × Value)} (h : rereadMembers ms = some ms')
    (hs : Entries.Sorted ms) : Entries.Sorted ms' := by
  have hkeys : (ms.map Prod.fst).Pairwise (· < ·) := List.pairwise_map.2 hs
  rw [← keys_of_rereadMembers h] at hkeys
  exact List.pairwise_map.1 hkeys

mutual

/-- The document of a value is read as what the value is read back as, if the value is no deeper
than may be read. -/
theorem ofDocument?_document : (v : Value) → v.Sorted → (limit : Nat) →
    ofDocument? limit v.document = if v.document.depth ≤ limit then v.reread else none
  | .null, _, _ | .bool _, _, _ => rfl
  | .number (.integer i), _, limit => by
    simp [document, ofDocument?, Number.ofNumeral?_numeral, Document.depth, reread]
  | .number (.float x), _, limit => by
    simp [document, ofDocument?, Number.ofNumeral?_numeral, Document.depth, reread,
      Function.comp_def]
  | .string s, _, limit => by
    simp [document, ofDocument?, Document.depth, reread]
  | .array items, hs, limit => by
    have hitems := itemsOf?_documents items hs (limit - 1)
    rw [document, ofDocument?, Document.depth, reread, hitems]
    -- the array takes one level, and leaves the others to its items
    by_cases hlimit : limit = 0
    · rw [if_pos hlimit, if_neg (by omega)]
    · rw [if_neg hlimit]
      by_cases hdepth : Document.depthItems (documents items) ≤ limit - 1
      · rw [if_pos hdepth, if_pos (by omega)]
      · rw [if_neg hdepth, if_neg (by omega)]
        rfl
  | .object members, hs, limit => by
    have hmembers := membersOf?_memberDocuments members hs.2 (limit - 1)
    rw [document, ofDocument?, Document.depth, reread, hmembers]
    by_cases hlimit : limit = 0
    · rw [if_pos hlimit, if_neg (by omega)]
    · rw [if_neg hlimit]
      by_cases hdepth : Document.depthMembers (memberDocuments members) ≤ limit - 1
      · rw [if_pos hdepth, if_pos (by omega)]
        -- the members are sorted already, so that putting them in order changes nothing
        refine Option.map_congr fun ms hms => ?_
        rw [Entries.ofList_of_sorted (sorted_of_rereadMembers hms hs.1)]
      · rw [if_neg hdepth, if_neg (by omega)]
        rfl

/-- Items that are not too deep are read as they are reread. -/
theorem itemsOf?_documents : (vs : List Value) → SortedItems vs → (limit : Nat) →
    itemsOf? limit (documents vs) =
      if Document.depthItems (documents vs) ≤ limit then rereadItems vs else none
  | [], _, _ => by simp [documents, itemsOf?, Document.depthItems, rereadItems]
  | v :: vs, hs, limit => by
    have hv := ofDocument?_document v hs.1 limit
    have hvs := itemsOf?_documents vs hs.2 limit
    rw [documents, itemsOf?, Document.depthItems, rereadItems, hv, hvs]
    -- one that is too deep makes the sequence too deep
    simp only [Nat.max_le]
    by_cases hdepth : v.document.depth ≤ limit
    · by_cases hrest : Document.depthItems (documents vs) ≤ limit
      · rw [if_pos hdepth, if_pos hrest, if_pos ⟨hdepth, hrest⟩]
      · simp [hrest]
    · simp [hdepth]

/-- Members that are not too deep are read as they are reread. -/
theorem membersOf?_memberDocuments : (ms : List (String × Value)) → SortedMembers ms →
    (limit : Nat) → membersOf? limit (memberDocuments ms) =
      if Document.depthMembers (memberDocuments ms) ≤ limit then rereadMembers ms else none
  | [], _, _ => by simp [memberDocuments, membersOf?, Document.depthMembers, rereadMembers]
  | (k, v) :: ms, hs, limit => by
    have hv := ofDocument?_document v hs.1 limit
    have hms := membersOf?_memberDocuments ms hs.2 limit
    rw [memberDocuments, membersOf?, Document.depthMembers, rereadMembers, hv, hms,
      Piece.text?_ofText]
    simp only [Nat.max_le]
    -- one that is too deep makes the members too deep
    by_cases hdepth : v.document.depth ≤ limit
    · by_cases hrest : Document.depthMembers (memberDocuments ms) ≤ limit
      · rw [if_pos hdepth, if_pos hrest, if_pos ⟨hdepth, hrest⟩]
        rfl
      · simp [hrest]
    · simp [hdepth]

end

/-! ## Double-precision numbers -/

mutual

/-- The double-precision numbers of a value, in the order of its text. -/
def floats : Value → List Binary64
  | .number (.float x) => [x]
  | .array items => floatsItems items
  | .object members => floatsMembers members
  | _ => []

/-- The double-precision numbers of a sequence of values. -/
def floatsItems : List Value → List Binary64
  | [] => []
  | v :: vs => v.floats ++ floatsItems vs

/-- The double-precision numbers of the values of members. -/
def floatsMembers : List (String × Value) → List Binary64
  | [] => []
  | (_, v) :: ms => v.floats ++ floatsMembers ms

end

mutual

/-- A value is read back as itself exactly when its double-precision numbers are. -/
theorem reread_eq_self_iff : (v : Value) →
    (v.reread = some v ↔ ∀ x ∈ v.floats, rereadFloat x = some x)
  | .null | .bool _ | .string _ | .number (.integer _) => by simp [reread, floats]
  | .number (.float x) => by simp [reread, floats]
  | .array items => by
    rw [reread, floats, ← rereadItems_eq_self_iff items]
    simp
  | .object members => by
    rw [reread, floats, ← rereadMembers_eq_self_iff members]
    simp

/-- Items are reread as they are when all their floats are. -/
theorem rereadItems_eq_self_iff : (vs : List Value) →
    (rereadItems vs = some vs ↔ ∀ x ∈ floatsItems vs, rereadFloat x = some x)
  | [] => by simp [rereadItems, floatsItems]
  | v :: vs => by
    have hv := reread_eq_self_iff v
    have hvs := rereadItems_eq_self_iff vs
    rw [floatsItems, List.forall_mem_append, ← hv, ← hvs]
    simp [rereadItems, Option.bind_eq_some_iff]

/-- Members are reread as they are when all their floats are. -/
theorem rereadMembers_eq_self_iff : (ms : List (String × Value)) →
    (rereadMembers ms = some ms ↔ ∀ x ∈ floatsMembers ms, rereadFloat x = some x)
  | [] => by simp [rereadMembers, floatsMembers]
  | (k, v) :: ms => by
    have hv := reread_eq_self_iff v
    have hms := rereadMembers_eq_self_iff ms
    rw [floatsMembers, List.forall_mem_append, ← hv, ← hms]
    simp [rereadMembers, Option.bind_eq_some_iff]

end

end Value

namespace Object

/-- The document of an object. -/
def document (o : Object) : Document := (Value.object o.members).document

/-- The double-precision numbers of an object, in the order of its text. -/
def floats (o : Object) : List Binary64 := (Value.object o.members).floats

/-- A sorted value is an object with its members. -/
theorem ofValue?_eq_some_iff {v : Value} (hs : v.Sorted) {o : Object} :
    ofValue? v hs = some o ↔ v = .object o.members := by
  obtain ⟨members, sorted⟩ := o
  cases v <;> simp [ofValue?]

/-- A document is read as an object exactly when it is read as a value that is this object. -/
theorem ofDocument?_eq_some_iff {limit : Nat} {d : Document} {o : Object} :
    ofDocument? limit d = some o ↔ Value.ofDocument? limit d = some (.object o.members) := by
  unfold ofDocument?
  split
  next v hv => simp [ofValue?_eq_some_iff, hv]
  next hv => simp [hv]

/-- The document of an object is read as what the object is read back as, if the object is no
deeper than may be read. -/
theorem ofDocument?_document_eq_some_iff {limit : Nat} {o o' : Object} :
    ofDocument? limit o.document = some o' ↔
      o.document.depth ≤ limit ∧ (Value.object o.members).reread = some (.object o'.members) := by
  rw [ofDocument?_eq_some_iff, document, Value.ofDocument?_document _ o.sorted]
  simp

end Object

end Json

end Webhook
