import Mathlib.Data.List.Forall2
import Webhook.Proofs.Json.Scanning
import Webhook.Proofs.Text.Utf8

/-!
# Documents and their texts

The tokens of a document, without a space between them, build that document again
(`Document.ofTokens?_tokens`). `Spells` ties a printed text to a document through these tokens. A
text spells one document at most, and reading the text gives that one (`Spells.parse_eq`).

The printer joins texts by marks only, so there is one lemma for each of its forms: literals,
strings, numbers (in `Proofs/Json/Numerals.lean`), arrays and objects.
-/

namespace Webhook.Json

/-- Sequences of tokens with commas between them. -/
def Token.commaSeparated : List (List Token) → List Token
  | [] => []
  | [x] => x
  | x :: rest => x ++ .comma :: commaSeparated rest

/-- A comma stands between the first part and the rest. -/
theorem Token.commaSeparated_cons_cons (x y : List Token) (rest : List (List Token)) :
    commaSeparated (x :: y :: rest) = x ++ .comma :: commaSeparated (y :: rest) := rfl

namespace Document

mutual

/-- The tokens of a document. -/
def tokens : Document → List Token
  | .null => [.null]
  | .bool b => [.bool b]
  | .number n => [.number n]
  | .string pieces => [.string pieces]
  | .array items => .openArray :: Token.commaSeparated (itemTokens items) ++ [.closeArray]
  | .object members => .openObject :: Token.commaSeparated (memberTokens members) ++ [.closeObject]

/-- The tokens of each item of an array. -/
def itemTokens : List Document → List (List Token)
  | [] => []
  | d :: ds => d.tokens :: itemTokens ds

/-- The tokens of each member of an object. -/
def memberTokens : List (List Piece × Document) → List (List Token)
  | [] => []
  | (key, d) :: ms => (.string key :: .colon :: d.tokens) :: memberTokens ms

end

/-! ## Building -/

namespace Builder

/-- The first token of a document is read the same whether or not the array may end there. -/
theorem foldlM_valueOrEnd (d : Document) (rest : List Token) (stack : List Frame) :
    (d.tokens ++ rest).foldlM step ⟨.valueOrEnd, stack⟩ =
      (d.tokens ++ rest).foldlM step ⟨.value, stack⟩ := by
  cases d <;> simp [tokens, step]

mutual

/-- Where a value is expected, the tokens of a document build it, whatever follows. -/
theorem foldlM_tokens : (d : Document) → (rest : List Token) → (stack : List Frame) →
    (d.tokens ++ rest).foldlM step ⟨.value, stack⟩ = rest.foldlM step ⟨.after d, stack⟩
  | .null, _, _ | .bool _, _, _ | .number _, _, _ | .string _, _, _ => rfl
  | .array [], _, _ | .object [], _, _ => rfl
  | .array (d :: ds), rest, stack => by
    have hitems := foldlM_itemTokens (d :: ds) (by simp) rest [] stack
    -- the first item is expected where the array may also end
    have hfirst : ∃ more, Token.commaSeparated (itemTokens (d :: ds)) ++ .closeArray :: rest =
        d.tokens ++ more := by
      cases ds <;> simp [itemTokens, Token.commaSeparated]
    obtain ⟨more, hmore⟩ := hfirst
    rw [hmore, ← foldlM_valueOrEnd, ← hmore] at hitems
    simpa [tokens, step, stepValue] using hitems
  | .object (m :: ms), rest, stack => by
    have hmembers := foldlM_memberTokens (m :: ms) (by simp) rest [] stack
    obtain ⟨key, d⟩ := m
    have hfirst : ∃ more, Token.commaSeparated (memberTokens ((key, d) :: ms)) ++
        .closeObject :: rest = .string key :: more := by
      cases ms <;> simp [memberTokens, Token.commaSeparated]
    obtain ⟨more, hmore⟩ := hfirst
    have htokens : (Document.object ((key, d) :: ms)).tokens ++ rest =
        .openObject :: .string key :: more := by
      rw [← hmore]
      simp [tokens]
    have hopen : step ⟨.value, stack⟩ .openObject = some ⟨.keyOrEnd, stack⟩ := rfl
    have hkey : step ⟨.keyOrEnd, stack⟩ (.string key) = some ⟨.colon [] key, stack⟩ := rfl
    have hkey' : step ⟨.key [], stack⟩ (.string key) = some ⟨.colon [] key, stack⟩ := rfl
    rw [hmore, foldlM_cons_of_step hkey'] at hmembers
    rw [htokens, foldlM_cons_of_step hopen, foldlM_cons_of_step hkey]
    exact hmembers

/-- The items of an array, after those before them, build the array. -/
theorem foldlM_itemTokens : (items : List Document) → items ≠ [] → (rest : List Token) →
    (reversed : List Document) → (stack : List Frame) →
    (Token.commaSeparated (itemTokens items) ++ .closeArray :: rest).foldlM step
        ⟨.value, .array reversed :: stack⟩ =
      rest.foldlM step ⟨.after (.array (reversed.reverse ++ items)), stack⟩
  | [d], _, rest, reversed, stack => by
    have hd := foldlM_tokens d (.closeArray :: rest) (.array reversed :: stack)
    simpa [itemTokens, Token.commaSeparated, step] using hd
  | d :: e :: ds, _, rest, reversed, stack => by
    have hd := foldlM_tokens d
      (.comma :: (Token.commaSeparated (itemTokens (e :: ds)) ++ .closeArray :: rest))
      (.array reversed :: stack)
    -- the rest of the items, with the first one already kept
    have hds := foldlM_itemTokens (e :: ds) (by simp) rest (d :: reversed) stack
    simp only [itemTokens, Token.commaSeparated_cons_cons, List.append_assoc, List.cons_append]
      at hd hds ⊢
    rw [hd]
    simpa [step] using hds

/-- The members of an object, after those before them, build the object. -/
theorem foldlM_memberTokens : (members : List (List Piece × Document)) → members ≠ [] →
    (rest : List Token) → (reversed : List (List Piece × Document)) → (stack : List Frame) →
    (Token.commaSeparated (memberTokens members) ++ .closeObject :: rest).foldlM step
        ⟨.key reversed, stack⟩ =
      rest.foldlM step ⟨.after (.object (reversed.reverse ++ members)), stack⟩
  | [(key, d)], _, rest, reversed, stack => by
    have hd := foldlM_tokens d (.closeObject :: rest) (.object reversed key :: stack)
    simpa [memberTokens, Token.commaSeparated, step] using hd
  | (key, d) :: m :: ms, _, rest, reversed, stack => by
    have hd := foldlM_tokens d
      (.comma :: (Token.commaSeparated (memberTokens (m :: ms)) ++ .closeObject :: rest))
      (.object reversed key :: stack)
    have hms := foldlM_memberTokens (m :: ms) (by simp) rest ((key, d) :: reversed) stack
    simp only [memberTokens, Token.commaSeparated_cons_cons, List.append_assoc, List.cons_append]
      at hd hms ⊢
    -- a member is a key, a colon, a value, and a comma before the next
    have hkey : step ⟨.key reversed, stack⟩ (.string key) = some ⟨.colon reversed key, stack⟩ := rfl
    have hcolon : step ⟨.colon reversed key, stack⟩ .colon =
        some ⟨.value, .object reversed key :: stack⟩ := rfl
    have hcomma : step ⟨.after d, .object reversed key :: stack⟩ .comma =
        some ⟨.key ((key, d) :: reversed), stack⟩ := rfl
    rw [foldlM_cons_of_step hkey, foldlM_cons_of_step hcolon, hd, foldlM_cons_of_step hcomma, hms]
    simp

end

end Builder

/-- The tokens of a document build that document. -/
theorem ofTokens?_tokens (d : Document) : ofTokens? d.tokens = some d := by
  have h := Builder.foldlM_tokens d [] []
  rw [List.append_nil] at h
  simp [ofTokens?, Builder.start, h, Builder.finish]

end Document

/-! ## Texts -/

/-- The characters are read as the tokens of a document. -/
def Spells (cs : List Char) (d : Document) : Prop := Scans cs d.tokens

namespace Spells

variable {cs : List Char} {d : Document}

/-- Reading a text gives the document that it spells. -/
theorem parse_eq (h : Spells cs d) : Document.parse (String.ofList cs) = some d := by
  simp [Document.parse, Scans.scan_eq h, Document.ofTokens?_tokens]

/-- The word of null spells it. -/
theorem null : Spells "null".toList .null := scans_null

/-- The words of the truth values spell them. -/
theorem bool (b : Bool) : Spells (Value.bool b).print (.bool b) := by
  cases b
  · exact scans_false
  · exact scans_true

/-- A printed text spells it. -/
theorem string (s : String) : Spells (printString s) (.string (Piece.ofText s)) :=
  scans_printString s

end Spells

/-- Texts separated by commas scan as tokens separated by commas. -/
theorem Scans.commaSeparated {texts : List (List Char)} {tokens : List (List Token)}
    (h : List.Forall₂ Scans texts tokens) :
    Scans (commaSeparated texts) (Token.commaSeparated tokens) := by
  induction h with
  | nil => exact .nil
  | @cons cs ts texts tokens hd htail ih =>
    cases htail with
    | nil => exact hd
    | cons _ _ => exact hd.mark rfl ih

/-- Marks around a text are tokens around those of the text. -/
theorem Scans.enclosed {cs : List Char} {tokens : List Token} (h : Scans cs tokens)
    {first last : Char} {open_ close : Token} (ho : Token.ofMark? first = some open_)
    (hc : Token.ofMark? last = some close) :
    Scans (first :: cs ++ [last]) (open_ :: tokens ++ [close]) :=
  Scans.nil.mark ho (h.mark hc .nil)

/-- Printed items between brackets spell the array of what they spell. -/
theorem Spells.bracketed {texts : List (List Char)} {items : List Document}
    (h : List.Forall₂ Spells texts items) : Spells (bracketed texts) (.array items) := by
  have htokens : List.Forall₂ Scans texts (Document.itemTokens items) := by
    induction h with
    | nil => exact .nil
    | cons hd _ ih => exact .cons hd ih
  exact (Scans.commaSeparated htokens).enclosed rfl rfl

/-- A key with a printed value spells a member. -/
def SpellsMember (m : String × List Char) (e : List Piece × Document) : Prop :=
  e.1 = Piece.ofText m.1 ∧ Spells m.2 e.2

/-- Keys and printed values between braces spell the object of what they spell. -/
theorem Spells.braced {members : List (String × List Char)}
    {entries : List (List Piece × Document)} (h : List.Forall₂ SpellsMember members entries) :
    Spells (braced members) (.object entries) := by
  have htokens : List.Forall₂ Scans (members.map fun m => printString m.1 ++ ':' :: m.2)
      (Document.memberTokens entries) := by
    induction h with
    | nil => exact .nil
    | @cons m e _ _ hm _ ih =>
      obtain ⟨key, d⟩ := e
      obtain ⟨rfl, hd⟩ := hm
      exact .cons ((scans_printString m.1).mark rfl hd) ih
  exact (Scans.commaSeparated htokens).enclosed rfl rfl

end Webhook.Json
