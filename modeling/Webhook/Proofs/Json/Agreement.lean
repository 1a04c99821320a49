import Webhook.Proofs.Json.Reordering

/-!
# Records of other documents

The members of an object are read as a record if every key is a text and no field comes twice
(`Record.ofMembers?_eq_some_iff`), and then the fields are the members with the names of the record.
So a record says the same where members stand in another order (`Record.rel_of_reorders`) or where
one has another value that is read alike (`Record.rel_of_replaced`).

`Record.Pads` says that an object has one more member that means nothing: one with an unknown name,
or null for an optional field that is absent. The fields are the same but for that null
(`Record.rel_of_pads`).
-/

namespace Webhook.Json

namespace Record

/-- The field that a member is, if its key is one of the names. -/
def field? (names : List String) (m : List Piece × Document) : Option (String × Document) :=
  (Piece.text? m.1).bind fun name => if name ∈ names then some (name, m.2) else none

/-- The fields among the members of an object, in their order. -/
def fieldsOf (names : List String) (ms : List (List Piece × Document)) : Record :=
  ms.filterMap (field? names)

variable {names : List String} {ms ms' before after : List (List Piece × Document)}

/-- The names of the fields among the members. -/
def namesOf (names : List String) (ms : List (List Piece × Document)) : List String :=
  (fieldsOf names ms).map Prod.fst

/-- The fields among members are read part by part. -/
theorem fieldsOf_append : fieldsOf names (before ++ after) =
    fieldsOf names before ++ fieldsOf names after :=
  List.filterMap_append

/-- A member whose key is a known name is a field, and any other is passed over. -/
theorem fieldsOf_cons {key : List Piece} {name : String} (hkey : Piece.text? key = some name)
    (d : Document) : fieldsOf names ((key, d) :: ms) =
      (if name ∈ names then [(name, d)] else []) ++ fieldsOf names ms := by
  by_cases hname : name ∈ names
  · simp [fieldsOf, field?, hkey, hname]
  · simp [fieldsOf, field?, hkey, hname]

/-- A record has a document for its own names, and for no others. -/
theorem lookup_isSome_iff {fields : Record} {name : String} :
    (fields.lookup name).isSome = true ↔ name ∈ fields.map Prod.fst := by
  constructor
  · intro h
    by_contra hname
    rw [lookup_eq_none hname] at h
    cases h
  · intro hname
    by_contra h
    rw [Bool.not_eq_true, Option.isSome_eq_false_iff, Option.isNone_iff_eq_none,
      List.lookup_eq_none_iff] at h
    obtain ⟨f, hf, rfl⟩ := List.mem_map.1 hname
    simpa using h f hf

/-- The members of an object are read as the record of their fields, if every key is a text and no
field comes twice. -/
theorem ofMembers?_eq_some_iff {r : Record} : ofMembers? names ms = some r ↔
    (∀ m ∈ ms, (Piece.text? m.1).isSome = true) ∧ (namesOf names ms).Nodup ∧
      fieldsOf names ms = r := by
  induction ms generalizing r with
  | nil => simp [ofMembers?, namesOf, fieldsOf]
  | cons m ms ih =>
    obtain ⟨key, d⟩ := m
    simp only [ofMembers?, Option.bind_eq_bind, Option.bind_eq_some_iff, ih, List.forall_mem_cons]
    constructor
    · rintro ⟨name, hkey, fields, ⟨htexts, hnodup, rfl⟩, h⟩
      rw [namesOf, fieldsOf_cons hkey, hkey]
      refine ⟨⟨rfl, htexts⟩, ?_⟩
      -- an unknown member is passed over, and a known one must be new
      split at h
      next hname =>
        rw [if_pos (by simpa using hname)]
        split at h
        · cases h
        next hlookup =>
          rw [lookup_isSome_iff] at hlookup
          exact ⟨List.nodup_cons.2 ⟨hlookup, hnodup⟩, Option.some.inj h⟩
      next hname =>
        rw [if_neg (by simpa using hname)]
        exact ⟨hnodup, Option.some.inj h⟩
    · rintro ⟨⟨hkey, htexts⟩, hnodup, rfl⟩
      obtain ⟨name, hkey⟩ := Option.isSome_iff_exists.1 hkey
      rw [namesOf, fieldsOf_cons hkey] at hnodup
      rw [fieldsOf_cons hkey]
      by_cases hname : name ∈ names
      · rw [if_pos hname, List.cons_append, List.nil_append, List.map_cons, List.nodup_cons]
          at hnodup
        refine ⟨name, hkey, _, ⟨htexts, hnodup.2, rfl⟩, ?_⟩
        have hlookup : ¬ ((fieldsOf names ms).lookup name).isSome = true := by
          rw [lookup_isSome_iff]
          exact hnodup.1
        simp [hname, hlookup]
      · rw [if_neg hname, List.nil_append] at hnodup
        refine ⟨name, hkey, _, ⟨htexts, hnodup, rfl⟩, ?_⟩
        simp [hname]

/-- Whether each name has the same document in two records, or documents that are alike. -/
def Agree (alike : String → Option Document → Option Document → Prop) (r r' : Record) : Prop :=
  ∀ name, r.lookup name = r'.lookup name ∨ alike name (r.lookup name) (r'.lookup name)

variable {alike : String → Option Document → Option Document → Prop}

/-- Members with the same keys that are texts and the same names of fields are read as records that
agree where their fields do. -/
theorem rel_of_fieldsOf
    (htexts : (∀ m ∈ ms, (Piece.text? m.1).isSome = true) ↔
      ∀ m ∈ ms', (Piece.text? m.1).isSome = true)
    (hnodup : (namesOf names ms).Nodup ↔ (namesOf names ms').Nodup)
    (hagree : (namesOf names ms).Nodup → Agree alike (fieldsOf names ms) (fieldsOf names ms')) :
    Option.Rel (Agree alike) (ofMembers? names ms) (ofMembers? names ms') := by
  -- both are records, or neither is
  cases h : ofMembers? names ms with
  | some r =>
    obtain ⟨htexts', hnodup', rfl⟩ := ofMembers?_eq_some_iff.1 h
    rw [ofMembers?_eq_some_iff.2 ⟨htexts.1 htexts', hnodup.1 hnodup', rfl⟩]
    exact .some (hagree hnodup')
  | none =>
    cases h' : ofMembers? names ms' with
    | none => exact .none
    | some r' =>
      obtain ⟨htexts', hnodup', rfl⟩ := ofMembers?_eq_some_iff.1 h'
      rw [ofMembers?_eq_some_iff.2 ⟨htexts.2 htexts', hnodup.2 hnodup', rfl⟩] at h
      cases h

/-! ### One member replaced -/

/-- Records that differ in one field agree when the two documents are alike there. -/
theorem agree_of_replaced (before after : Record) {name : String} {d d' : Document}
    (h : alike name (some d) (some d')) :
    Agree alike (before ++ (name, d) :: after) (before ++ (name, d') :: after) := by
  intro other
  rw [List.lookup_append, List.lookup_append]
  -- a field in front hides the one that is replaced
  cases before.lookup other with
  | some e => exact .inl rfl
  | none =>
    by_cases hname : other = name
    · subst hname
      simpa using .inr h
    · have hbeq : (other == name) = false := by simpa using hname
      simp [List.lookup_cons, hbeq]

/-- Another value for one member changes nothing but the field that the member is. -/
theorem rel_of_replaced {key : List Piece} {d d' : Document}
    (h : ∀ name, Piece.text? key = some name → alike name (some d) (some d')) :
    Option.Rel (Agree alike) (ofMembers? names (before ++ (key, d) :: after))
      (ofMembers? names (before ++ (key, d') :: after)) := by
  have htexts : ∀ e : Document, (∀ m ∈ before ++ (key, e) :: after,
      (Piece.text? m.1).isSome = true) ↔ (∀ m ∈ before, (Piece.text? m.1).isSome = true) ∧
        (Piece.text? key).isSome = true ∧ ∀ m ∈ after, (Piece.text? m.1).isSome = true := by
    intro e
    rw [List.forall_mem_append, List.forall_mem_cons]
  cases hkey : Piece.text? key with
  | none =>
    -- the key is no text, so that neither object is read
    refine rel_of_fieldsOf (by rw [htexts, htexts]) ?_ ?_
    · simp [namesOf, fieldsOf, field?, hkey]
    · simp [fieldsOf, field?, hkey, Agree]
  | some name =>
    refine rel_of_fieldsOf (by rw [htexts, htexts]) ?_ fun _ => ?_
    · simp only [namesOf, fieldsOf_append, fieldsOf_cons hkey, List.map_append]
      by_cases hname : name ∈ names <;> simp [hname]
    · rw [fieldsOf_append, fieldsOf_append, fieldsOf_cons hkey, fieldsOf_cons hkey]
      -- an unknown member is no field, whatever its value
      by_cases hname : name ∈ names
      · rw [if_pos hname, if_pos hname]
        exact agree_of_replaced _ _ (h name hkey)
      · rw [if_neg hname, if_neg hname]
        exact fun _ => .inl rfl

/-! ### Members in another order -/

/-- In what order the fields of a record stand does not matter, if no name comes twice. -/
theorem lookup_eq_of_perm {r r' : Record} (h : r.Perm r') (hnodup : (r.map Prod.fst).Nodup)
    (name : String) : r.lookup name = r'.lookup name := by
  induction h with
  | nil => rfl
  | cons f _ ih =>
    rw [List.map_cons, List.nodup_cons] at hnodup
    rw [List.lookup_cons, List.lookup_cons, ih hnodup.2]
  | swap f g r =>
    -- the keys that change places are different, so that at most one is looked for
    obtain ⟨k, d⟩ := f
    obtain ⟨l, e⟩ := g
    have hne : l ≠ k := by
      rintro rfl
      simp at hnodup
    by_cases hk : name = k
    · subst hk
      have hl : (name == l) = false := by simpa using hne.symm
      simp [List.lookup_cons, hl]
    · have hk : (name == k) = false := by simpa using hk
      simp [List.lookup_cons, hk]
  | trans h _ ih ih' => rw [ih hnodup, ih' ((h.map Prod.fst).nodup_iff.1 hnodup)]

/-- Members in another order are read as records that agree. -/
theorem rel_of_perm (h : ms.Perm ms') :
    Option.Rel (Agree alike) (ofMembers? names ms) (ofMembers? names ms') := by
  have hfields : (fieldsOf names ms).Perm (fieldsOf names ms') := h.filterMap _
  refine rel_of_fieldsOf ?_ (hfields.map Prod.fst).nodup_iff fun hnodup name => ?_
  · simp only [h.mem_iff]
  · exact .inl (lookup_eq_of_perm hfields hnodup name)

/-- The items of an array are the fields in order, so that another value for one item is another
value for one field at most. -/
theorem rel_of_item {before after : List Document} {d d' : Document}
    (h : ∀ name, alike name (some d) (some d')) :
    Option.Rel (Agree alike) (ofDocument? names (.array (before ++ d :: after)))
      (ofDocument? names (.array (before ++ d' :: after))) := by
  have hlength : (before ++ d :: after).length = (before ++ d' :: after).length := by simp
  simp only [ofDocument?, ← hlength]
  split
  next hle =>
    have hbefore : before.length < names.length := by
      simp at hle
      omega
    -- the names up to that of the item, and those from it on
    obtain ⟨front, name, back, rfl, hfront⟩ : ∃ front name back,
        names = front ++ name :: back ∧ front.length = before.length := by
      refine ⟨names.take before.length, names[before.length], names.drop (before.length + 1),
        ?_, ?_⟩
      · rw [List.cons_getElem_drop_succ, List.take_append_drop]
      · rw [List.length_take]
        omega
    rw [List.zip_append hfront, List.zip_append hfront, List.zip_cons_cons, List.zip_cons_cons]
    exact .some (agree_of_replaced _ _ (h name))
  next => exact .none

/-- Records of a document and of one with members in another order agree, but for fields with
members in another order in their turn. -/
theorem rel_of_reorders {d d' : Document} (h : d.Reorders d')
    (hsame : ∀ name e e', e.Reorders e' → alike name (some e) (some e')) :
    Option.Rel (Agree alike) (ofDocument? names d) (ofDocument? names d') := by
  cases h with
  | members _ hperm => exact rel_of_perm hperm
  | item h => exact rel_of_item fun name => hsame name _ _ h
  | member h => exact rel_of_replaced fun name _ => hsame name _ _ h

/-! ### Members that mean nothing -/

/-- Whether an object has one more member that means nothing to a record. -/
inductive Pads (names optionals : List String) : Document → Document → Prop where
  /-- A member with an unknown name, whatever its value. -/
  | unknown {before after : List (List Piece × Document)} {name : String} (value : Document)
    (hname : name ∉ names) :
    Pads names optionals (.object (before ++ after))
      (.object (before ++ (Piece.ofText name, value) :: after))
  /-- Null for an optional field that is absent. -/
  | null {before after : List (List Piece × Document)} {name : String} (hname : name ∈ optionals)
    (habsent : Piece.ofText name ∉ (before ++ after).map Prod.fst) :
    Pads names optionals (.object (before ++ after))
      (.object (before ++ (Piece.ofText name, .null) :: after))

/-- The name of a field is the key of a member. -/
theorem mem_of_mem_namesOf {name : String} (h : name ∈ namesOf names ms) :
    Piece.ofText name ∈ ms.map Prod.fst := by
  obtain ⟨f, hf, rfl⟩ := List.mem_map.1 h
  obtain ⟨m, hm, hfield⟩ := List.mem_filterMap.1 hf
  obtain ⟨name, hkey, hif⟩ := Option.bind_eq_some_iff.1 hfield
  split at hif
  · obtain rfl := Option.some.inj hif
    exact List.mem_map.2 ⟨m, hm, Piece.text?_eq_some_iff.1 hkey⟩
  · cases hif

/-- Records agree when one lacks a name that is null in the other, if a null there is alike to
nothing. -/
theorem agree_of_null {before after : Record} {name : String}
    (habsent : name ∉ (before ++ after).map Prod.fst) (h : alike name none (some .null)) :
    Agree alike (before ++ after) (before ++ (name, .null) :: after) := by
  intro other
  by_cases hname : other = name
  · -- under the name itself, nothing stands against a null
    subst hname
    have hbefore : other ∉ before.map Prod.fst := fun hmem => habsent (by simp_all)
    have hnone : (before ++ after).lookup other = none := lookup_eq_none habsent
    have hnull : (before ++ (other, Document.null) :: after).lookup other = some .null := by
      rw [List.lookup_append, lookup_eq_none hbefore]
      simp
    rw [hnone, hnull]
    exact .inr h
  · have hbeq : (other == name) = false := by simpa using hname
    rw [List.lookup_append, List.lookup_append, List.lookup_cons, hbeq]
    exact .inl rfl

/-- Records of an object and of one with a member that means nothing agree, but for a null in the
one where an optional field is absent from the other. -/
theorem rel_of_pads {optionals : List String} {d d' : Document} (h : Pads names optionals d d')
    (hnull : ∀ name ∈ optionals, alike name none (some .null)) :
    Option.Rel (Agree alike) (ofDocument? names d) (ofDocument? names d') := by
  -- the key added is a text, so the keys are texts of the one when they are of the other
  have htexts : ∀ (before after : List (List Piece × Document)) (name : String) (e : Document),
      (∀ m ∈ before ++ after, (Piece.text? m.1).isSome = true) ↔
        ∀ m ∈ before ++ (Piece.ofText name, e) :: after, (Piece.text? m.1).isSome = true := by
    intro before after name e
    have hkey : (Piece.text? (Piece.ofText name)).isSome = true := by simp
    rw [List.forall_mem_append, List.forall_mem_append, List.forall_mem_cons, and_iff_right hkey]
  cases h with
  | @unknown before after name value hname =>
    have hfields : fieldsOf names (before ++ (Piece.ofText name, value) :: after) =
        fieldsOf names (before ++ after) := by
      rw [fieldsOf_append, fieldsOf_cons (Piece.text?_ofText name), if_neg hname, List.nil_append,
        ← fieldsOf_append]
    refine rel_of_fieldsOf (htexts _ _ _ _) ?_ fun _ => ?_
    · rw [namesOf, namesOf, hfields]
    · rw [hfields]
      exact fun _ => .inl rfl
  | @null before after name hname habsent =>
    have habsent' : name ∉ namesOf names (before ++ after) :=
      fun hmem => habsent (mem_of_mem_namesOf hmem)
    rw [namesOf, fieldsOf_append] at habsent'
    refine rel_of_fieldsOf (htexts _ _ _ _) ?_ fun _ => ?_
    · rw [namesOf, namesOf, fieldsOf_append, fieldsOf_append,
        fieldsOf_cons (Piece.text?_ofText name)]
      by_cases hknown : name ∈ names
      · rw [if_pos hknown, List.cons_append, List.nil_append, List.map_append, List.map_append,
          List.map_cons, List.nodup_middle, List.nodup_cons, ← List.map_append,
          and_iff_right habsent']
      · rw [if_neg hknown, List.nil_append]
    · rw [fieldsOf_append, fieldsOf_append, fieldsOf_cons (Piece.text?_ofText name)]
      by_cases hknown : name ∈ names
      · rw [if_pos hknown]
        exact agree_of_null habsent' (hnull name hname)
      · rw [if_neg hknown]
        exact fun _ => .inl rfl

/-! ## Reading fields -/

section Reading

variable {α : Type} {r r' : Record} {decode : Document → Option α} {name : String}

/-- A field that must be there is read the same where records agree. -/
theorem required_eq_of_agree (h : Agree alike r r')
    (hread : ∀ x x', alike name x x' → x.bind decode = x'.bind decode) :
    required r name decode = required r' name decode := by
  rcases h name with heq | halike
  · rw [required, required, heq]
  · exact hread _ _ halike

/-- An optional field, where it is looked up. -/
def readOptional (x : Option Document) (decode : Document → Option α) : Option (Option α) :=
  match x with
  | none | some .null => some none
  | some d => (decode d).map some

/-- An optional field is read the same where records agree. -/
theorem optional_eq_of_agree (h : Agree alike r r')
    (hread : ∀ x x', alike name x x' → readOptional x decode = readOptional x' decode) :
    optional r name decode = optional r' name decode := by
  rcases h name with heq | halike
  · rw [optional, optional, heq]
  · exact hread _ _ halike

/-- What is not null is read as a value. -/
theorem readOptional_of_ne_null {d : Document} (h : d ≠ .null) :
    readOptional (some d) decode = (decode d).map some := by
  cases d with
  | null => exact absurd rfl h
  | _ => rfl

end Reading

end Record

end Webhook.Json
