import Mathlib.Algebra.Group.Nat.Defs
import Mathlib.Data.List.Induction
import Webhook.Proofs.Json.Scanning
import Webhook.Proofs.Text.Utf8

/-!
# How tokens are laid out

What a JSON text may look like, told without the machine that reads it: which characters write a
character of a string (`SpellsChar`), which write the pieces of a string (`SpellsPieces`) and a
token (`SpellsToken`), and which lay out a sequence of tokens, with space between them where it
pleases (`Layout`).

Inside a string the machine reads what writes some pieces as those pieces (`Lexer.foldlM_pieces`),
and an escape writes what the machine makes of it (`SpellsPieces.push`). The whole text is in
`Proofs/Json/Lexing.lean`.
-/

namespace Webhook.Json

open Lexer (isSpace isWordChar escaped? isHighSurrogate isLowSurrogate pushCode)

/-! ## The characters of a string -/

/-- The number that hexadecimal digits of either case write. -/
def code? (ds : List Char) : Option Nat :=
  ds.foldlM (fun code c => (Text.Hex.value? c).map (16 * code + ·)) 0

/-- Four hexadecimal digits that write a code. -/
def SpellsCode (ds : List Char) (code : Nat) : Prop := ds.length = 4 ∧ code? ds = some code

/-- Characters that write one character inside a string. -/
inductive SpellsChar : List Char → Char → Prop where
  /-- The character itself, unless it is a control character, a quote or a backslash. -/
  | plain {c : Char} (hcontrol : 0x20 ≤ c.toNat) (hquote : c ≠ '"') (hslash : c ≠ '\\') :
    SpellsChar [c] c
  /-- An escape of one letter. -/
  | short {e c : Char} (h : escaped? e = some c) : SpellsChar ['\\', e] c
  /-- An escape for the code of the character. -/
  | code {ds : List Char} {c : Char} (h : SpellsCode ds c.toNat) : SpellsChar ('\\' :: 'u' :: ds) c
  /-- Two escapes for the codes of a surrogate pair. -/
  | pair {ds ds' : List Char} {high low : Nat} {c : Char} (h : SpellsCode ds high)
    (h' : SpellsCode ds' low) (hhigh : isHighSurrogate high = true)
    (hlow : isLowSurrogate low = true)
    (hc : c.toNat = 0x10000 + (high - 0xD800) * 0x400 + (low - 0xDC00)) :
    SpellsChar ('\\' :: 'u' :: ds ++ '\\' :: 'u' :: ds') c

/-- Whether the code of a surrogate makes a pair with the last of some pieces. -/
def PairsWith (pieces : List Piece) (code : Nat) : Prop :=
  ∃ high, pieces.getLast? = some (.surrogate high) ∧ isHighSurrogate high = true ∧
    isLowSurrogate code = true

/-- Characters that write the pieces of a string, from left to right. -/
inductive SpellsPieces : List Char → List Piece → Prop where
  /-- No character writes no piece. -/
  | nil : SpellsPieces [] []
  /-- One more character. -/
  | char {cs w : List Char} {ps : List Piece} {c : Char} (h : SpellsPieces cs ps)
    (hw : SpellsChar w c) : SpellsPieces (cs ++ w) (ps ++ [.char c])
  /-- An escape for one more surrogate that makes no pair with what is before it. -/
  | surrogate {cs ds : List Char} {ps : List Piece} {code : Nat} (h : SpellsPieces cs ps)
    (hds : SpellsCode ds code)
    (hcode : isHighSurrogate code = true ∨ isLowSurrogate code = true)
    (halone : ¬ PairsWith ps code) :
    SpellsPieces (cs ++ '\\' :: 'u' :: ds) (ps ++ [.surrogate code])

/-! ## Tokens -/

/-- Characters that write a token. -/
inductive SpellsToken : List Char → Token → Prop where
  /-- A mark. -/
  | mark {c : Char} {t : Token} (h : Token.ofMark? c = some t) : SpellsToken [c] t
  /-- A literal or a number. -/
  | word {w : List Char} {t : Token} (h : Token.ofWord? w = some t) (hne : w ≠ [])
    (hw : ∀ c ∈ w, isWordChar c = true) : SpellsToken w t
  /-- The pieces of a string between quotes. -/
  | string {cs : List Char} {ps : List Piece} (h : SpellsPieces cs ps) :
    SpellsToken ('"' :: cs ++ ['"']) (.string ps)

/-- Whether characters may follow a text at once: no word goes on in what follows. -/
def Apart (cs w : List Char) : Prop :=
  ∀ a ∈ cs.getLast?, ∀ b ∈ w.head?, isWordChar a = true → isWordChar b = false

/-- Characters that lay out a sequence of tokens, from left to right. -/
inductive Layout : List Char → List Token → Prop where
  /-- No character lays out no token. -/
  | nil : Layout [] []
  /-- One more space. -/
  | space {cs : List Char} {ts : List Token} {c : Char} (h : Layout cs ts) (hc : isSpace c = true) :
    Layout (cs ++ [c]) ts
  /-- One more token. -/
  | token {cs w : List Char} {ts : List Token} {t : Token} (h : Layout cs ts)
    (hw : SpellsToken w t) (hapart : Apart cs w) : Layout (cs ++ w) (ts ++ [t])

/-! ## Codes -/

/-- A further digit multiplies the code by sixteen and adds its value. -/
theorem code?_append_singleton (ds : List Char) (c : Char) :
    code? (ds ++ [c]) = (code? ds).bind fun code => (Text.Hex.value? c).map (16 * code + ·) := by
  rw [code?, List.foldlM_append]
  simp [code?]

/-- A hexadecimal digit is worth less than sixteen. -/
theorem value?_lt {c : Char} {n : Nat} (h : Text.Hex.value? c = some n) : n < 16 := by
  simp only [Text.Hex.value?] at h
  split at h
  · cases h
    omega
  · split at h
    · cases h
      omega
    · split at h
      · cases h
        omega
      · cases h

/-- A code is smaller than the power of sixteen that its digits allow. -/
theorem code?_lt {ds : List Char} {code : Nat} (h : code? ds = some code) :
    code < 16 ^ ds.length := by
  -- from the right, as the last digit is added last
  induction ds using List.reverseRecOn generalizing code with
  | nil =>
    cases h
    decide
  | append_singleton ds c ih =>
    rw [code?_append_singleton, Option.bind_eq_some_iff] at h
    obtain ⟨front, hfront, hlast⟩ := h
    obtain ⟨n, hn, rfl⟩ := Option.map_eq_some_iff.1 hlast
    have hlt := ih hfront
    have hdigit := value?_lt hn
    rw [List.length_append, List.length_singleton, Nat.pow_succ]
    omega

/-- A code that is none of a surrogate is that of a character. -/
theorem SpellsCode.toNat_ofNat {ds : List Char} {code : Nat} (h : SpellsCode ds code)
    (hhigh : isHighSurrogate code = false) (hlow : isLowSurrogate code = false) :
    (Char.ofNat code).toNat = code := by
  -- four digits hold no more than the codes of one plane
  have hlt := code?_lt h.2
  rw [h.1] at hlt
  simp only [isHighSurrogate, isLowSurrogate, Bool.and_eq_false_iff, decide_eq_false_iff_not]
    at hhigh hlow
  have hvalid : code.isValidChar := by
    unfold Nat.isValidChar
    omega
  rw [Char.ofNat, dif_pos hvalid]
  rfl

/-- No character is a surrogate. -/
theorem isSurrogate_toNat (c : Char) :
    isHighSurrogate c.toNat = false ∧ isLowSurrogate c.toNat = false := by
  have hvalid : c.toNat.isValidChar := c.valid
  unfold Nat.isValidChar at hvalid
  simp only [isHighSurrogate, isLowSurrogate, Bool.and_eq_false_iff, decide_eq_false_iff_not]
  omega

/-! ## Strings -/

namespace Lexer

variable {cs ds : List Char} {ps reversed : List Piece} {code high : Nat} {before : List Token}

/-- The code of a character is pushed as that character. -/
theorem pushCode_of_char (hhigh : isHighSurrogate code = false)
    (hlow : isLowSurrogate code = false) :
    pushCode reversed code = .char (Char.ofNat code) :: reversed := by
  unfold pushCode
  split
  · simp [hhigh, hlow]
  · simp [hhigh, hlow]

/-- The code of a surrogate that makes no pair is pushed as that surrogate. -/
theorem pushCode_of_alone (hcode : isHighSurrogate code = true ∨ isLowSurrogate code = true)
    (halone : ¬ PairsWith reversed.reverse code) :
    pushCode reversed code = .surrogate code :: reversed := by
  unfold pushCode
  split
  next high rest =>
    -- one of the two codes is not that of the half it would have to be
    have hpair : (isHighSurrogate high && isLowSurrogate code) = false := by
      rw [Bool.eq_false_iff]
      intro h
      rw [Bool.and_eq_true] at h
      exact halone ⟨high, by simp, h⟩
    simp [hpair, hcode]
  next => simp [hcode]

/-- The code of a second half makes a pair with the first half before it. -/
theorem pushCode_of_pair (hhigh : isHighSurrogate high = true)
    (hlow : isLowSurrogate code = true) :
    pushCode (.surrogate high :: reversed) code =
      .char (Char.ofNat (0x10000 + (high - 0xD800) * 0x400 + (code - 0xDC00))) :: reversed := by
  simp [pushCode, hhigh, hlow]

/-- A high surrogate is the second half of no pair. -/
theorem not_pairsWith_of_high (hhigh : isHighSurrogate code = true) : ¬ PairsWith ps code := by
  rintro ⟨_, _, _, hlow⟩
  simp only [isHighSurrogate, isLowSurrogate, Bool.and_eq_true, decide_eq_true_eq] at hhigh hlow
  omega

/-- The digits of an escape are read as its code. -/
theorem foldlM_digits (h : ds.length ≤ 4) (hcode : code? ds = some code) (hne : ds ≠ []) :
    ds.foldlM step ⟨.unicode reversed 4 0, before⟩ =
      some ⟨if ds.length = 4 then .string (pushCode reversed code)
        else .unicode reversed (4 - ds.length) code, before⟩ := by
  induction ds using List.reverseRecOn generalizing code with
  | nil => exact absurd rfl hne
  | append_singleton ds c ih =>
    rw [code?_append_singleton, Option.bind_eq_some_iff] at hcode
    obtain ⟨front, hfront, hlast⟩ := hcode
    obtain ⟨n, hn, rfl⟩ := Option.map_eq_some_iff.1 hlast
    rw [List.length_append, List.length_singleton] at h ⊢
    -- the state before the last digit
    have hbefore : ds.foldlM step ⟨.unicode reversed 4 0, before⟩ =
        some ⟨.unicode reversed (4 - ds.length) front, before⟩ := by
      by_cases hds : ds = []
      · subst hds
        cases hfront
        rfl
      · rw [ih (by omega) hfront hds, if_neg (by omega)]
    rw [List.foldlM_append, hbefore]
    by_cases hfour : ds.length + 1 = 4
    · simp [step, hn, hfour, show 4 - ds.length ≤ 1 by omega]
    · simp [step, hn, hfour, show ¬ 4 - ds.length ≤ 1 by omega, Nat.sub_sub]

/-- The lexer reads an escaped code and pushes it. -/
theorem foldlM_code (h : SpellsCode ds code) :
    ('\\' :: 'u' :: ds).foldlM step ⟨.string reversed, before⟩ =
      some ⟨.string (pushCode reversed code), before⟩ := by
  have hne : ds ≠ [] := by
    rintro rfl
    cases h.1
  have hdigits : ds.foldlM step ⟨.unicode reversed 4 0, before⟩ =
      some ⟨.string (pushCode reversed code), before⟩ := by
    rw [foldlM_digits (Nat.le_of_eq h.1) h.2 hne, if_pos h.1]
  have hslash : step ⟨.string reversed, before⟩ '\\' = some ⟨.escape reversed, before⟩ := rfl
  have hu : step ⟨.escape reversed, before⟩ 'u' = some ⟨.unicode reversed 4 0, before⟩ := rfl
  rw [foldlM_cons_of_step hslash, foldlM_cons_of_step hu, hdigits]

/-- What writes a character is read as that character. -/
theorem foldlM_char {w : List Char} {c : Char} (h : SpellsChar w c) :
    w.foldlM step ⟨.string reversed, before⟩ = some ⟨.string (.char c :: reversed), before⟩ := by
  cases h with
  | plain hcontrol hquote hslash => simp [step, hquote, hslash, Nat.not_lt.2 hcontrol]
  | @short e c h =>
    -- the letter of a code stands for no character
    have hu : e ≠ 'u' := by
      rintro rfl
      cases h
    simp [step, hu, h]
  | code h =>
    obtain ⟨hhigh, hlow⟩ := isSurrogate_toNat c
    rw [foldlM_code h, pushCode_of_char hhigh hlow, Char.ofNat_toNat]
  | pair h h' hhigh hlow hc =>
    -- the first half stands alone until the second comes
    rw [List.foldlM_append, foldlM_code h, Option.bind_eq_bind, Option.bind_some, foldlM_code h',
      pushCode_of_alone (.inl hhigh) (not_pairsWith_of_high hhigh), pushCode_of_pair hhigh hlow,
      ← hc, Char.ofNat_toNat]

/-- What writes pieces is read as those pieces. -/
theorem foldlM_pieces (h : SpellsPieces cs ps) :
    cs.foldlM step ⟨.string [], before⟩ = some ⟨.string ps.reverse, before⟩ := by
  induction h with
  | nil => rfl
  | char _ hw ih =>
    rw [List.foldlM_append, ih, Option.bind_eq_bind, Option.bind_some, foldlM_char hw,
      List.reverse_append]
    rfl
  | @surrogate cs ds ps code _ hds hcode halone ih =>
    -- a surrogate without its other half stays a piece of its own
    have halone' : ¬ PairsWith ps.reverse.reverse code := by rwa [List.reverse_reverse]
    rw [List.foldlM_append, ih, Option.bind_eq_bind, Option.bind_some, foldlM_code hds,
      pushCode_of_alone hcode halone', List.reverse_append]
    rfl

end Lexer

namespace SpellsPieces

variable {cs ds : List Char} {ps reversed : List Piece} {code high : Nat}

/-- The last of some pieces, where it is a surrogate, is written by an escape. -/
theorem of_surrogate (h : SpellsPieces cs (ps ++ [.surrogate high])) :
    ∃ cs' ds, cs = cs' ++ '\\' :: 'u' :: ds ∧ SpellsPieces cs' ps ∧ SpellsCode ds high := by
  generalize hpieces : ps ++ [.surrogate high] = pieces at h
  cases h with
  | nil => simp at hpieces
  | char h hw => simp at hpieces
  | surrogate h hds hcode halone =>
    -- only this rule puts a surrogate last
    obtain ⟨rfl, hlast⟩ := List.append_inj' hpieces rfl
    obtain rfl : high = _ := by simpa using hlast
    exact ⟨_, _, rfl, h, hds⟩

/-- An escape with a code writes what the code is pushed as. -/
theorem push (h : SpellsPieces cs reversed.reverse) (hds : SpellsCode ds code) :
    SpellsPieces (cs ++ '\\' :: 'u' :: ds) (pushCode reversed code).reverse := by
  by_cases hpair : PairsWith reversed.reverse code
  · obtain ⟨high, hlast, hhigh, hlow⟩ := hpair
    rw [List.getLast?_reverse] at hlast
    obtain ⟨rest, rfl⟩ := List.head?_eq_some_iff.1 hlast
    -- the escape before this one is that of the first half
    rw [List.reverse_cons] at h
    obtain ⟨cs', ds', rfl, h, hds'⟩ := h.of_surrogate
    rw [Lexer.pushCode_of_pair hhigh hlow, List.reverse_cons, List.append_assoc]
    refine h.char (.pair hds' hds hhigh hlow ?_)
    simp only [isHighSurrogate, isLowSurrogate, Bool.and_eq_true, decide_eq_true_eq] at hhigh hlow
    have hvalid : (0x10000 + (high - 0xD800) * 0x400 + (code - 0xDC00)).isValidChar := by
      unfold Nat.isValidChar
      omega
    rw [Char.ofNat, dif_pos hvalid]
    rfl
  · by_cases hcode : isHighSurrogate code = true ∨ isLowSurrogate code = true
    · rw [Lexer.pushCode_of_alone hcode hpair, List.reverse_cons]
      exact h.surrogate hds hcode hpair
    · have hhigh : isHighSurrogate code = false := Bool.eq_false_iff.2 fun h => hcode (.inl h)
      have hlow : isLowSurrogate code = false := Bool.eq_false_iff.2 fun h => hcode (.inr h)
      rw [Lexer.pushCode_of_char hhigh hlow, List.reverse_cons]
      refine h.char (.code ?_)
      rw [hds.toNat_ofNat hhigh hlow]
      exact hds

end SpellsPieces

end Webhook.Json
