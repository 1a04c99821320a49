import Webhook.Proofs.Json.Records

/-!
# JSON forms

A form of the values of a type is a printer and a reader with the documents between them: the text
of a value spells its document, and the reader takes the document back. So the reader takes back the
text of every value (`Form.read_parse`). Texts, truth values, natural numbers, lists and maps have
forms, and a field of a record is read back by the form that it was written in: one that must be
there (`Form.required_eq`), one that may be null for an absent value (`Form.optional_eq`), and one
with a default (`Form.withDefault_eq`).
-/

namespace Webhook.Json

variable {α : Type}

/-- A way to write values of a type and to read them back. No value has the null document, which
stands for an absent one. -/
structure Form (α : Type) where
  /-- The text of a value. -/
  print : α → List Char
  /-- The document that the text spells. -/
  document : α → Document
  /-- The value of a document. -/
  read : Document → Option α
  spells (a : α) : Spells (print a) (document a)
  read_document (a : α) : read (document a) = some a
  document_ne_null (a : α) : document a ≠ .null

namespace Form

variable (f : Form α)

/-- The text of a value is read back. -/
theorem read_parse (a : α) : (Document.parse (String.ofList (f.print a))).bind f.read = some a := by
  rw [(f.spells a).parse_eq, Option.bind_some, f.read_document]

/-! ## Forms of simple values -/

/-- Texts. -/
def text : Form String where
  print := printString
  document s := .string (Piece.ofText s)
  read := Document.text?
  spells := Spells.string
  read_document := Piece.text?_ofText
  document_ne_null _ := Document.noConfusion

/-- Truth values. -/
def bool : Form Bool where
  print b := (Value.bool b).print
  document := .bool
  read := Document.bool?
  spells := Spells.bool
  read_document _ := rfl
  document_ne_null _ := Document.noConfusion

/-- Natural numbers, of any size. -/
def natural : Form Nat where
  print := printNat
  document n := .number (intNumeral n)
  read := Document.natural?
  spells n := by
    have hprint : printNat n = (intNumeral n).print := by
      rw [← printInt_eq, printInt, if_neg (by omega), Int.natAbs_natCast]
    rw [hprint]
    exact .number (isValid_intNumeral n)
  read_document n := by
    have hnegative : (intNumeral n).negative = false := by simp [intNumeral]
    have hvalue : (intNumeral n).natural = n := Nat.ofDigitChars_ten_toDigits
    rw [Document.natural?, Numeral.natural?, hnegative, hvalue]
    rfl
  document_ne_null _ := Document.noConfusion

/-! ## Forms of containers -/

/-- A list of documents is read back item by item. -/
theorem mapM_read_document (list : List α) : (list.map f.document).mapM f.read = some list := by
  induction list with
  | nil => rfl
  | cons a rest ih =>
    rw [List.map_cons, List.mapM_cons, f.read_document, ih]
    rfl

/-- Lists of values, in their order. -/
def list : Form (List α) where
  print as := bracketed (as.map f.print)
  document as := .array (as.map f.document)
  read := Document.listOf? f.read
  spells as := by
    refine Spells.bracketed ?_
    rw [List.forall₂_map_left_iff, List.forall₂_map_right_iff]
    exact List.forall₂_same.2 fun a _ => f.spells a
  read_document as := f.mapM_read_document as
  document_ne_null _ := Document.noConfusion

/-- Maps from texts to texts, in the order of their keys. -/
def textMap : Form (Dictionary String) where
  print d := braced (d.entries.map fun e => (e.1, printString e.2))
  document d := .ofFields (d.entries.map fun e => (e.1, text.document e.2))
  read := Document.textMap?
  spells d := by
    refine Spells.fields ?_
    rw [List.forall₂_map_left_iff, List.forall₂_map_right_iff]
    exact List.forall₂_same.2 fun e _ => ⟨rfl, text.spells e.2⟩
  read_document d := by
    have hentries : ∀ entries : List (String × String),
        ((entries.map fun e => (e.1, text.document e.2)).map
          fun f => (Piece.ofText f.1, f.2)).mapM
            (fun m => do return (← Piece.text? m.1, ← m.2.text?)) = some entries := by
      intro entries
      induction entries with
      | nil => rfl
      | cons e rest ih =>
        rw [List.map_cons, List.map_cons, List.mapM_cons, ih]
        have hvalue : (text.document e.2).text? = some e.2 := text.read_document e.2
        simp [hvalue]
    rw [Document.ofFields, Document.textMap?, hentries]
    -- the entries are in order already
    have hsorted : Entries.ofList d.entries = d.entries := Entries.ofList_of_sorted d.sorted
    obtain ⟨entries, sorted⟩ := d
    simp only [Option.bind_eq_bind, Option.bind_some, Dictionary.ofList, hsorted]
    rfl
  document_ne_null _ := Document.noConfusion

/-! ## Fields -/

/-- The document of an optional value, null where there is none. -/
def documentOption : Option α → Document
  | none => .null
  | some a => f.document a

section Fields

variable {r : Record} {name : String}

/-- A field that must be there is read back. -/
theorem required_eq {a : α} (h : r.lookup name = some (f.document a)) :
    r.required name f.read = some a := by
  rw [Record.required, h, Option.bind_some, f.read_document]

/-- A field that is written as null where it is absent is read back, absent or not. -/
theorem optional_eq {x : Option α} (h : r.lookup name = some (f.documentOption x)) :
    r.optional name f.read = some x := by
  cases x with
  | none =>
    rw [Record.optional, h]
    rfl
  | some a =>
    rw [Record.optional_of_lookup h (f.document_ne_null a)]
    exact congrArg (Option.map some) (f.read_document a)

/-- A field with a default is read back where it is there, whatever the default. -/
theorem withDefault_eq {a : α} (h : r.lookup name = some (f.document a)) (default : α) :
    r.withDefault name default f.read = some a := by
  rw [Record.withDefault, h]
  exact f.read_document a

end Fields

end Form

end Webhook.Json
