import Webhook.Json.Record
import Webhook.Proofs.Json.Rereading

/-!
# Records read back

A record that is written as an object with different known keys is read back field by field
(`Record.ofDocument?_ofFields`). Optional fields are written only where they are there, and each is
read back as what is there (`Record.optional_ofOptions`).
-/

namespace Webhook.Json

/-- The object with these fields as its members. -/
def Document.ofFields (fields : Record) : Document :=
  .object (fields.map fun f => (Piece.ofText f.1, f.2))

/-- A record is one level deeper than its fields. -/
theorem Document.depth_ofFields_le_iff {fields : Record} {n : Nat} :
    (Document.ofFields fields).depth ≤ n + 1 ↔ ∀ f ∈ fields, f.2.depth ≤ n := by
  rw [ofFields, depth, Nat.add_le_add_iff_right, depthMembers_le_iff, List.forall_mem_map]

/-- Keys with printed values between braces spell the object of these fields. -/
theorem Spells.fields {members : List (String × List Char)} {fields : Record}
    (h : List.Forall₂ (fun m f => f.1 = m.1 ∧ Spells m.2 f.2) members fields) :
    Spells (Json.braced members) (.ofFields fields) := by
  refine Spells.braced ?_
  rw [List.forall₂_map_right_iff]
  exact h.imp fun _ _ hm => ⟨congrArg Piece.ofText hm.1, hm.2⟩

namespace Record

variable {names : List String} {α : Type}

/-- A record has no document for a name that is not among its own. -/
theorem lookup_eq_none {name : String} {fields : List (String × α)}
    (h : name ∉ fields.map Prod.fst) : fields.lookup name = none := by
  rw [List.lookup_eq_none_iff]
  intro f hf
  have hne : name ≠ f.1 := fun heq => h (heq ▸ List.mem_map_of_mem hf)
  simpa using hne

/-- Different known keys are read back as the fields that they are. -/
theorem ofMembers?_fields {fields : Record} (hknown : ∀ name ∈ fields.map Prod.fst, name ∈ names)
    (hnodup : (fields.map Prod.fst).Nodup) :
    ofMembers? names (fields.map fun f => (Piece.ofText f.1, f.2)) = some fields := by
  induction fields with
  | nil => rfl
  | cons f fields ih =>
    obtain ⟨name, d⟩ := f
    rw [List.map_cons, List.nodup_cons] at hnodup
    have hfields := ih (fun n hn => hknown n (List.mem_cons_of_mem _ hn)) hnodup.2
    -- the name does not come again in the rest
    have hlookup : fields.lookup name = none := lookup_eq_none hnodup.1
    have hname : name ∈ names := hknown name (by simp)
    rw [List.map_cons, ofMembers?, Piece.text?_ofText, hfields]
    simp [hname, hlookup]

/-- A record is read back from its own document. -/
theorem ofDocument?_ofFields {fields : Record}
    (hknown : ∀ name ∈ fields.map Prod.fst, name ∈ names)
    (hnodup : (fields.map Prod.fst).Nodup) :
    ofDocument? names (.ofFields fields) = some fields :=
  ofMembers?_fields hknown hnodup

/-! ## Optional fields -/

/-- A field that is there and not null is read as a value. -/
theorem optional_of_lookup {r : Record} {name : String} {d : Document}
    {decode : Document → Option α} (h : r.lookup name = some d) (hnull : d ≠ .null) :
    optional r name decode = (decode d).map some := by
  rw [optional, h]
  cases d with
  | null => exact absurd rfl hnull
  | _ => rfl

/-- The fields that are there, each with the document of its value. -/
def ofOptions (encode : α → Document) (fields : List (String × Option α)) : Record :=
  fields.filterMap fun f => f.2.map fun value => (f.1, encode value)

variable {encode : α → Document} {fields : List (String × Option α)}

/-- Of options, those that are given become fields. -/
theorem ofOptions_cons (name : String) (value : Option α) :
    ofOptions encode ((name, value) :: fields) =
      (value.map fun a => (name, encode a)).toList ++ ofOptions encode fields := by
  cases value <;> rfl

/-- The keys of the fields that are there are some of all keys. -/
theorem keys_ofOptions :
    ((ofOptions encode fields).map Prod.fst).Sublist (fields.map Prod.fst) := by
  induction fields with
  | nil => exact .slnil
  | cons f fields ih =>
    obtain ⟨name, value⟩ := f
    cases value with
    | none => exact ih.cons _
    | some value => exact ih.cons_cons _

/-- Looking up a key among the fields that are there gives what is there for it. -/
theorem lookup_ofOptions (hnodup : (fields.map Prod.fst).Nodup) (name : String) :
    (ofOptions encode fields).lookup name = (fields.lookup name).join.map encode := by
  induction fields with
  | nil => rfl
  | cons f fields ih =>
    obtain ⟨key, value⟩ := f
    rw [List.map_cons, List.nodup_cons] at hnodup
    have hrest := ih hnodup.2
    rw [ofOptions_cons]
    by_cases hname : name = key
    · subst hname
      -- no later field has the key
      have hlater : (ofOptions encode fields).lookup name = none :=
        lookup_eq_none fun h => hnodup.1 (keys_ofOptions.subset h)
      cases value <;> simp [hlater]
    · have hkey : (name == key) = false := by simpa using hname
      cases value <;> simp [List.lookup_cons, hkey, hrest]

/-- An optional field is read back as what is there for it, if no value has the null document. -/
theorem optional_ofOptions {decode : Document → Option α} (hnodup : (fields.map Prod.fst).Nodup)
    (hdecode : ∀ a, decode (encode a) = some a) (hnull : ∀ a, encode a ≠ .null) (name : String) :
    optional (ofOptions encode fields) name decode = some (fields.lookup name).join := by
  have hlookup : (ofOptions encode fields).lookup name = _ := lookup_ofOptions hnodup name
  -- an option that is not given leaves no field, and one that is given its own
  cases hvalue : (fields.lookup name).join with
  | none =>
    rw [hvalue] at hlookup
    rw [optional, hlookup]
    rfl
  | some a =>
    rw [hvalue] at hlookup
    rw [optional_of_lookup hlookup (hnull a), hdecode a]
    rfl

/-- Every field comes from a value. -/
theorem mem_ofOptions {f : String × Document} (hf : f ∈ ofOptions encode fields) :
    ∃ a, f.2 = encode a := by
  obtain ⟨g, -, hg⟩ := List.mem_filterMap.1 hf
  obtain ⟨a, -, rfl⟩ := Option.map_eq_some_iff.1 hg
  exact ⟨a, rfl⟩

/-- The texts of optional fields spell the fields that are there. -/
theorem forall₂_ofOptions {print : α → List Char} (h : ∀ a, Spells (print a) (encode a)) :
    List.Forall₂ (fun m f => f.1 = m.1 ∧ Spells m.2 f.2)
      (fields.filterMap fun f => f.2.map fun a => (f.1, print a)) (ofOptions encode fields) := by
  induction fields with
  | nil => exact .nil
  | cons f fields ih =>
    obtain ⟨name, value⟩ := f
    cases value with
    | none => exact ih
    | some a => exact .cons ⟨rfl, h a⟩ ih

end Record

end Webhook.Json
