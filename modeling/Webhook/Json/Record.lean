import Webhook.Json.Value

/-!
# Records

A record is a fixed list of named fields. Its document is an object, in which unknown members are
passed over and no known one may come twice, or an array of the fields in order, in which fields at
the end may be missing. A field is read as required, as optional, or with a default.
-/

namespace Webhook.Json

/-- The documents given for the fields of a record, by name. -/
abbrev Record := List (String × Document)

namespace Record

/-- The members of an object that are fields with one of the names; every key must be a text. -/
def ofMembers? (names : List String) : List (List Piece × Document) → Option Record
  | [] => some []
  | (key, d) :: rest => do
    let name ← Piece.text? key
    let fields ← ofMembers? names rest
    if names.contains name then
      if (fields.lookup name).isSome then none else some ((name, d) :: fields)
    else some fields

/-- The fields of a document for a record with these field names. -/
def ofDocument? (names : List String) : Document → Option Record
  | .object members => ofMembers? names members
  | .array items => if items.length ≤ names.length then some (names.zip items) else none
  | _ => none

variable {α : Type}

/-- A field that must be there. -/
def required (r : Record) (name : String) (decode : Document → Option α) : Option α :=
  (r.lookup name).bind decode

/-- A field that may be missing or null. -/
def optional (r : Record) (name : String) (decode : Document → Option α) : Option (Option α) :=
  match r.lookup name with
  | none | some .null => some none
  | some d => (decode d).map some

/-- A field that may be missing and then has a default. -/
def withDefault (r : Record) (name : String) (default : α) (decode : Document → Option α) :
    Option α :=
  match r.lookup name with
  | none => some default
  | some d => decode d

end Record

/-! ## Common fields -/

/-- A map from texts to texts; of several values of one key the last wins. -/
def Document.textMap? : Document → Option (Dictionary String)
  | .object members => do
    let entries ← members.mapM fun m => do return (← Piece.text? m.1, ← m.2.text?)
    return Dictionary.ofList entries
  | _ => none

/-- A sequence of items of one kind. -/
def Document.listOf? {α : Type} (decode : Document → Option α) (d : Document) :
    Option (List α) := do
  (← d.items?).mapM decode

end Webhook.Json
