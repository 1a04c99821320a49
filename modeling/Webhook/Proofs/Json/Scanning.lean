import Webhook.Json.Printer
import Webhook.Proofs.Text.Hex

/-!
# Printed text as tokens

What the scanner makes of the texts that the printer writes. A word is only complete when a
character follows that is not of it, so the scanner's state after a word is not that after a mark;
`settled?` takes the two together, as the tokens read if nothing more were to come. `Scans` says
that a text is read as a sequence of tokens from between any two. Texts are joined by marks
(`Scans.mark`), which is how the printer joins them.
-/

namespace Webhook.Json

namespace Lexer

/-- The tokens read so far, in reverse, with the word that is being read; none inside a string. -/
def settled? (l : Lexer) : Option (List Token) :=
  match l.mode with
  | .between => some l.tokens
  | .word reversed => (Token.ofWord? reversed.reverse).map (· :: l.tokens)
  | _ => none

/-- At the end of the text, the tokens are those read so far. -/
theorem finish_eq (l : Lexer) : l.finish = l.settled?.map List.reverse := by
  obtain ⟨mode, tokens⟩ := l
  cases mode with
  | word reversed =>
    simp only [finish, settled?]
    cases Token.ofWord? reversed.reverse <;> rfl
  | _ => rfl

/-- A character that is of no word is read as between two tokens. -/
theorem step_of_settled {l : Lexer} {tokens : List Token} (h : l.settled? = some tokens) {c : Char}
    (hc : isWordChar c = false) : l.step c = stepBetween tokens c := by
  obtain ⟨mode, before⟩ := l
  cases mode with
  | between =>
    cases h
    rfl
  | word reversed =>
    obtain ⟨t, ht, rfl⟩ := Option.map_eq_some_iff.1 h
    simp [step, hc, ht]
  | _ => cases h

/-- No space is part of a word. -/
theorem isSpace_eq_false {c : Char} (hc : isWordChar c = true) : isSpace c = false := by
  refine Bool.eq_false_iff.2 fun h => ?_
  simp only [isSpace, Bool.or_eq_true, beq_iff_eq] at h
  revert hc
  rcases h with ((rfl | rfl) | rfl) | rfl <;> decide

end Lexer

namespace Token

/-- A mark is part of no word, no space and no quote. -/
theorem of_ofMark?_eq_some {c : Char} {t : Token} (h : ofMark? c = some t) :
    Lexer.isWordChar c = false ∧ Lexer.isSpace c = false ∧ c ≠ '"' := by
  unfold ofMark? at h
  split at h
  · decide
  · decide
  · decide
  · decide
  · decide
  · decide
  · cases h

end Token

/-- Between any two tokens, the text is read as these tokens. -/
def Scans (cs : List Char) (tokens : List Token) : Prop :=
  ∀ before, ∃ l, cs.foldlM Lexer.step ⟨.between, before⟩ = some l ∧
    l.settled? = some (tokens.reverse ++ before)

namespace Scans

variable {cs cs' : List Char} {tokens tokens' : List Token}

/-- Nothing scans as no tokens. -/
theorem nil : Scans [] [] := fun before => ⟨⟨.between, before⟩, rfl, rfl⟩

/-- Texts on both sides of a mark are read one after the other. -/
theorem mark (h : Scans cs tokens) {c : Char} {t : Token} (hm : Token.ofMark? c = some t)
    (h' : Scans cs' tokens') : Scans (cs ++ c :: cs') (tokens ++ t :: tokens') := by
  intro before
  obtain ⟨l, hl, hs⟩ := h before
  obtain ⟨hw, hspace, hquote⟩ := Token.of_ofMark?_eq_some hm
  -- the mark completes what comes before it
  have hstep : l.step c = some ⟨.between, t :: (tokens.reverse ++ before)⟩ := by
    rw [Lexer.step_of_settled hs hw]
    simp [Lexer.stepBetween, hspace, hquote, hw, hm]
  obtain ⟨l', hl', hs'⟩ := h' (t :: (tokens.reverse ++ before))
  refine ⟨l', ?_, ?_⟩
  · rw [List.foldlM_append, hl]
    simp [hstep, hl']
  · rw [hs']
    simp

/-- What scans as tokens is scanned as these, from the start. -/
theorem scan_eq (h : Scans cs tokens) : Token.scan cs = some tokens := by
  obtain ⟨l, hl, hs⟩ := h []
  simp [Token.scan, Lexer.start, hl, Lexer.finish_eq, hs]

end Scans

/-! ## Words -/

/-- Inside a word the lexer keeps its further characters. -/
theorem foldlM_word {w : List Char} (hw : ∀ c ∈ w, Lexer.isWordChar c) (reversed : List Char)
    (before : List Token) : w.foldlM Lexer.step ⟨.word reversed, before⟩ =
      some ⟨.word (w.reverse ++ reversed), before⟩ := by
  induction w generalizing reversed with
  | nil => rfl
  | cons c w ih =>
    have hstep : Lexer.step ⟨.word reversed, before⟩ c = some ⟨.word (c :: reversed), before⟩ := by
      simp [Lexer.step, hw c List.mem_cons_self]
    rw [List.foldlM_cons, hstep]
    simpa using ih (fun c hc => hw c (List.mem_cons_of_mem _ hc)) (c :: reversed)

/-- A word is read as the token that it spells. -/
theorem scans_word {w : List Char} {t : Token} (ht : Token.ofWord? w = some t) (hne : w ≠ [])
    (hw : w.all Lexer.isWordChar = true) : Scans w [t] := by
  rw [List.all_eq_true] at hw
  intro before
  obtain ⟨c, w, rfl⟩ := List.exists_cons_of_ne_nil hne
  have hc : Lexer.isWordChar c = true := hw c List.mem_cons_self
  have hquote : c ≠ '"' := by
    rintro rfl
    revert hc
    decide
  -- the first character begins the word, and the others go on with it
  have hstep : Lexer.step ⟨.between, before⟩ c = some ⟨.word [c], before⟩ := by
    simp [Lexer.step, Lexer.stepBetween, Lexer.isSpace_eq_false hc, hquote, hc]
  refine ⟨⟨.word (w.reverse ++ [c]), before⟩, ?_, ?_⟩
  · rw [List.foldlM_cons, hstep]
    exact foldlM_word (fun c hc => hw c (List.mem_cons_of_mem _ hc)) [c] before
  · simpa [Lexer.settled?] using ht

/-- The word of null scans as its token. -/
theorem scans_null : Scans "null".toList [.null] :=
  scans_word (by decide) (by decide) (by decide)

/-- The word of truth scans as its token. -/
theorem scans_true : Scans "true".toList [.bool true] :=
  scans_word (by decide) (by decide) (by decide)

/-- The word of falsehood scans as its token. -/
theorem scans_false : Scans "false".toList [.bool false] :=
  scans_word (by decide) (by decide) (by decide)

/-! ## Strings -/

/-- The pieces of a text. -/
def Piece.ofText (s : String) : List Piece := s.toList.map .char

/-- The pieces of a text spell it. -/
@[simp]
theorem Piece.text?_ofText (s : String) : Piece.text? (Piece.ofText s) = some s := by
  have hchars : ∀ cs : List Char, (cs.map Piece.char).mapM Piece.char? = some cs := by
    intro cs
    induction cs with
    | nil => rfl
    | cons c cs ih => simp [Piece.char?, ih]
  simp [Piece.text?, Piece.ofText, hchars]

/-- Texts with equal pieces are equal. -/
theorem Piece.ofText_inj {s t : String} (h : Piece.ofText s = Piece.ofText t) : s = t := by
  have hs := Piece.text?_ofText s
  rw [h, Piece.text?_ofText] at hs
  exact (Option.some.inj hs).symm

/-- After characters, an escape for a code below those of surrogates is one more character. -/
theorem Lexer.pushCode_chars (reversed : List Char) {n : Nat} (h : n < 0xD800) :
    pushCode (reversed.map .char) n = .char (Char.ofNat n) :: reversed.map .char := by
  have hhigh : isHighSurrogate n = false := by simp [isHighSurrogate]; omega
  have hlow : isLowSurrogate n = false := by simp [isLowSurrogate]; omega
  cases reversed <;> simp [pushCode, hhigh, hlow]

/-- In a string, what is written for a character is read as that character. -/
theorem foldlM_escapeChar (c : Char) (reversed : List Char) (before : List Token) :
    (escapeChar c).foldlM Lexer.step ⟨.string (reversed.map .char), before⟩ =
      some ⟨.string ((c :: reversed).map .char), before⟩ := by
  unfold escapeChar
  split
  · rfl
  · rfl
  · rfl
  · rfl
  · rfl
  · rfl
  · rfl
  next hquote hslash _ _ _ _ _ =>
    split
    next hc =>
      -- the two digits after the zeros are those of the character's code
      have hhigh := Text.Hex.value?_digit (n := c.toNat / 16) (by omega)
      have hlow := Text.Hex.value?_digit (n := c.toNat % 16) (by omega)
      have hcode : 16 * (c.toNat / 16) + c.toNat % 16 = c.toNat := by omega
      have hzero : Text.Hex.value? '0' = some 0 := by decide
      have hpush := Lexer.pushCode_chars reversed (n := c.toNat) (by omega)
      simp [Lexer.step, hhigh, hlow, hzero, hcode, hpush]
    next hc =>
      have hq : c ≠ '"' := hquote
      have hs : c ≠ '\\' := hslash
      simp [Lexer.step, hq, hs, hc]

/-- Inside a string the lexer reads escaped characters as themselves. -/
theorem foldlM_escaped (cs reversed : List Char) (before : List Token) :
    (cs.flatMap escapeChar).foldlM Lexer.step ⟨.string (reversed.map .char), before⟩ =
      some ⟨.string ((cs.reverse ++ reversed).map .char), before⟩ := by
  induction cs generalizing reversed with
  | nil => rfl
  | cons c cs ih =>
    rw [List.flatMap_cons, List.foldlM_append, foldlM_escapeChar]
    simpa using ih (c :: reversed)

/-- A string literal is read as the pieces of its text. -/
theorem scans_printString (s : String) : Scans (printString s) [.string (Piece.ofText s)] := by
  intro before
  have hopen : Lexer.step ⟨.between, before⟩ '"' = some ⟨.string [], before⟩ := rfl
  have hclose : ∀ reversed : List Piece, Lexer.step ⟨.string reversed, before⟩ '"' =
      some ⟨.between, .string reversed.reverse :: before⟩ := fun _ => rfl
  have hchars := foldlM_escaped s.toList [] before
  refine ⟨⟨.between, .string (Piece.ofText s) :: before⟩, ?_, rfl⟩
  rw [printString, List.cons_append, List.foldlM_cons, hopen, Option.bind_eq_bind,
    Option.bind_some, List.foldlM_append]
  rw [List.map_nil] at hchars
  rw [hchars]
  simp [hclose, Piece.ofText]

end Webhook.Json
