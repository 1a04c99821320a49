import Webhook.Proofs.Json.Layout

/-!
# Texts and the tokens that they lay out

The machine reads a text as a sequence of tokens exactly when the text lays out that sequence
(`Token.scan_eq_some_iff`). So neither the space between tokens nor the way in which a character is
escaped tells anything.

`Lexer.Reads` says what a state of the machine tells about the text that has been read. One
character keeps it (`Lexer.Reads.step`), and so does a whole text (`Lexer.reads_of_foldlM`).
-/

namespace Webhook.Json

open Lexer (isSpace isWordChar)

/-! ## Ends of words -/

/-- Whitespace is no part of a word. -/
theorem isWordChar_of_isSpace {c : Char} (hc : isSpace c = true) : isWordChar c = false :=
  Bool.eq_false_iff.2 fun hw => by simp [Lexer.isSpace_eq_false hw] at hc

/-- What ends in a character that is no part of a word does not end in a word. -/
theorem isWordChar_getLast? {cs : List Char} {c : Char} (hc : isWordChar c = false) :
    ∀ a ∈ (cs ++ [c]).getLast?, isWordChar a = false := by
  intro a ha
  rw [List.getLast?_concat, Option.mem_some] at ha
  exact ha ▸ hc

/-- No word goes on where none ends. -/
theorem Apart.of_getLast? {cs w : List Char} (h : ∀ a ∈ cs.getLast?, isWordChar a = false) :
    Apart cs w := by
  intro a ha b _ hword
  rw [h a ha] at hword
  cases hword

/-- No word goes on where none begins. -/
theorem Apart.of_head {cs w : List Char} {c : Char} (hc : isWordChar c = false) :
    Apart cs (c :: w) := by
  intro _ _ b hb _
  rw [List.head?_cons, Option.mem_some] at hb
  exact hb ▸ hc

/-! ## The machine and the text that it has read -/

namespace Lexer

/-- What a state of the machine says about the text that has been read. -/
inductive Reads : Lexer → List Char → Prop where
  /-- Between tokens, the text lays out the tokens so far, and ends with no word. -/
  | between {cs : List Char} {ts : List Token} (h : Layout cs ts.reverse)
    (hlast : ∀ a ∈ cs.getLast?, isWordChar a = false) : Reads ⟨.between, ts⟩ cs
  /-- In a word, the word so far ends the text. -/
  | word {cs : List Char} {reversed : List Char} {ts : List Token} (h : Layout cs ts.reverse)
    (hlast : ∀ a ∈ cs.getLast?, isWordChar a = false) (hne : reversed ≠ [])
    (hw : ∀ c ∈ reversed, isWordChar c = true) :
    Reads ⟨.word reversed, ts⟩ (cs ++ reversed.reverse)
  /-- In a string, the text ends with a quote and what writes the pieces so far. -/
  | string {cs inner : List Char} {reversed : List Piece} {ts : List Token}
    (h : Layout cs ts.reverse) (hinner : SpellsPieces inner reversed.reverse) :
    Reads ⟨.string reversed, ts⟩ (cs ++ '"' :: inner)
  /-- After a backslash in a string. -/
  | escape {cs inner : List Char} {reversed : List Piece} {ts : List Token}
    (h : Layout cs ts.reverse) (hinner : SpellsPieces inner reversed.reverse) :
    Reads ⟨.escape reversed, ts⟩ (cs ++ '"' :: (inner ++ ['\\']))
  /-- In the digits of an escape, those so far end the text. -/
  | unicode {cs inner ds : List Char} {reversed : List Piece} {missing code : Nat}
    {ts : List Token} (h : Layout cs ts.reverse) (hinner : SpellsPieces inner reversed.reverse)
    (hlength : ds.length + missing = 4) (hmissing : 0 < missing) (hcode : code? ds = some code) :
    Reads ⟨.unicode reversed missing code, ts⟩ (cs ++ '"' :: (inner ++ '\\' :: 'u' :: ds))

variable {l l' : Lexer} {cs : List Char} {ts : List Token} {c : Char}

/-- After a layout the lexer reads one character more: whitespace, a quote, a word, or a mark. -/
theorem Reads.of_stepBetween (h : Layout cs ts.reverse)
    (hlast : isWordChar c = true → ∀ a ∈ cs.getLast?, isWordChar a = false)
    (hstep : stepBetween ts c = some l') : Reads l' (cs ++ [c]) := by
  unfold stepBetween at hstep
  split at hstep
  next hspace =>
    cases hstep
    exact .between (h.space hspace) (isWordChar_getLast? (isWordChar_of_isSpace hspace))
  next hspace =>
    split at hstep
    next hquote =>
      cases hstep
      subst hquote
      exact .string h .nil
    next hquote =>
      split at hstep
      next hword =>
        cases hstep
        exact @Reads.word cs [c] ts h (hlast hword) (by simp) (by simpa using hword)
      next hword =>
        obtain ⟨t, ht, rfl⟩ := Option.map_eq_some_iff.1 hstep
        have hc : isWordChar c = false := Bool.eq_false_iff.2 hword
        refine .between ?_ (isWordChar_getLast? hc)
        rw [List.reverse_cons]
        exact h.token (.mark ht) (.of_head hc)

/-- Inside a string the lexer reads one character more: the closing quote, a backslash, or a plain
character. -/
theorem Reads.of_stepString {inner : List Char} {reversed : List Piece} (h : Layout cs ts.reverse)
    (hinner : SpellsPieces inner reversed.reverse)
    (hstep : Lexer.step ⟨.string reversed, ts⟩ c = some l') :
    Reads l' (cs ++ '"' :: (inner ++ [c])) := by
  simp only [Lexer.step] at hstep
  split at hstep
  next hquote =>
    cases hstep
    subst hquote
    refine .between ?_ ?_
    · rw [List.reverse_cons]
      exact h.token (.string hinner) (.of_head rfl)
    · rw [← List.cons_append, ← List.append_assoc]
      exact isWordChar_getLast? rfl
  next hquote =>
    split at hstep
    next hslash =>
      cases hstep
      subst hslash
      exact .escape h hinner
    next hslash =>
      split at hstep
      · cases hstep
      -- a character that stands for itself
      next hcontrol =>
        cases hstep
        refine .string h ?_
        rw [List.reverse_cons]
        exact hinner.char (.plain (Nat.not_lt.1 hcontrol) hquote hslash)

/-- One character keeps what the state says about the text. -/
theorem Reads.step (h : Reads l cs) (hstep : l.step c = some l') : Reads l' (cs ++ [c]) := by
  cases h with
  | between h hlast => exact .of_stepBetween h (fun _ => hlast) hstep
  | @word cs reversed ts h hlast hne hw =>
    simp only [Lexer.step] at hstep
    split at hstep
    -- the word goes on
    next hc =>
      cases hstep
      rw [List.append_assoc, ← List.reverse_cons]
      exact .word h hlast (by simp) (by simpa using ⟨hc, hw⟩)
    next hc =>
      -- the word is complete, and the character is read as after a layout
      obtain ⟨t, ht, hstep⟩ := Option.bind_eq_some_iff.1 hstep
      refine .of_stepBetween ?_ (fun hword => absurd hword hc) hstep
      rw [List.reverse_cons]
      exact h.token (.word ht (by simpa using hne) (by simpa using hw)) (.of_getLast? hlast)
  | string h hinner =>
    rw [List.append_assoc, List.cons_append]
    exact .of_stepString h hinner hstep
  | @escape cs inner reversed ts h hinner =>
    simp only [Lexer.step] at hstep
    rw [List.append_assoc, List.cons_append, List.append_assoc]
    split at hstep
    next hu =>
      cases hstep
      subst hu
      exact @Reads.unicode cs inner [] reversed 4 0 ts h hinner rfl (by decide) rfl
    next hu =>
      obtain ⟨e, he, rfl⟩ := Option.map_eq_some_iff.1 hstep
      refine .string h ?_
      rw [List.reverse_cons]
      exact hinner.char (.short he)
  | @unicode cs inner ds reversed missing code ts h hinner hlength hmissing hcode =>
    obtain ⟨n, hn, hstep⟩ := Option.bind_eq_some_iff.1 hstep
    cases hstep
    -- the code so far, with a digit more
    have hcode' : code? (ds ++ [c]) = some (16 * code + n) := by
      rw [code?_append_singleton, hcode, Option.bind_some, hn]
      rfl
    rw [List.append_assoc, List.cons_append, List.append_assoc, List.cons_append,
      List.cons_append]
    split
    next hlast =>
      refine .string h (hinner.push ⟨?_, hcode'⟩)
      rw [List.length_append, List.length_singleton]
      omega
    next hlast =>
      refine .unicode h hinner ?_ (by omega) hcode'
      rw [List.length_append, List.length_singleton]
      omega

/-- What the state after a whole text says about it. -/
theorem reads_of_foldlM (h : cs.foldlM Lexer.step start = some l) : Reads l cs := by
  induction cs using List.reverseRecOn generalizing l with
  | nil =>
    cases h
    exact .between .nil (by simp)
  | append_singleton cs c ih =>
    rw [List.foldlM_append, Option.bind_eq_bind, Option.bind_eq_some_iff] at h
    obtain ⟨m, hm, hstep⟩ := h
    refine (ih hm).step ?_
    simpa using hstep

/-- A text that ends outside of a string lays out the tokens that have been read. -/
theorem Reads.layout (h : Reads l cs) (hts : l.settled? = some ts.reverse) : Layout cs ts := by
  cases h with
  | between h =>
    obtain rfl := Option.some.inj hts
    simpa using h
  | word h hlast hne hw =>
    obtain ⟨t, ht, hts⟩ := Option.map_eq_some_iff.1 hts
    rw [← List.reverse_reverse ts, ← hts, List.reverse_cons]
    exact h.token (.word ht (by simpa using hne) (by simpa using hw)) (.of_getLast? hlast)
  | string | escape | unicode => cases hts

/-! ## Reading what is laid out -/

/-- A token that may follow a text at once is read as the token that it is. -/
theorem foldlM_token {w : List Char} {t : Token} (hw : SpellsToken w t) (hreads : Reads l cs)
    (hapart : Apart cs w) (hts : l.settled? = some ts) :
    ∃ l', w.foldlM Lexer.step l = some l' ∧ l'.settled? = some (t :: ts) := by
  cases hw with
  | @mark c t hm =>
    obtain ⟨hword, hspace, hquote⟩ := Token.of_ofMark?_eq_some hm
    refine ⟨⟨.between, t :: ts⟩, ?_, rfl⟩
    simp [step_of_settled hts hword, stepBetween, hspace, hquote, hword, hm]
  | @string inner ps hinner =>
    have hopen : l.step '"' = some ⟨.string [], ts⟩ := step_of_settled hts rfl
    refine ⟨⟨.between, .string ps :: ts⟩, ?_, rfl⟩
    rw [List.cons_append, foldlM_cons_of_step hopen, List.foldlM_append, foldlM_pieces hinner]
    simp [Lexer.step]
  | word ht hne hw =>
    -- the machine is not in a word, which would go on in this one
    have hmode : l = ⟨.between, ts⟩ := by
      cases hreads with
      | between =>
        cases hts
        rfl
      | @word cs reversed _ _ _ hne' hw' =>
        obtain ⟨a, reversed, rfl⟩ := List.exists_cons_of_ne_nil hne'
        obtain ⟨b, w, rfl⟩ := List.exists_cons_of_ne_nil hne
        have hfalse := hapart a (by simp) b rfl (hw' a List.mem_cons_self)
        rw [hw b List.mem_cons_self] at hfalse
        cases hfalse
      | string | escape | unicode => cases hts
    obtain ⟨l', hl', hts'⟩ := scans_word ht hne (List.all_eq_true.2 hw) ts
    exact ⟨l', hmode ▸ hl', hts'⟩

/-- What lays out tokens is read as those tokens. -/
theorem foldlM_layout (h : Layout cs ts) :
    ∃ l, cs.foldlM Lexer.step start = some l ∧ l.settled? = some ts.reverse := by
  -- along the layout, after each part of which the lexer has its tokens
  induction h with
  | nil => exact ⟨start, rfl, rfl⟩
  | @space cs ts c _ hc ih =>
    obtain ⟨l, hl, hts⟩ := ih
    refine ⟨⟨.between, ts.reverse⟩, ?_, rfl⟩
    rw [List.foldlM_append, hl]
    simp [step_of_settled hts (isWordChar_of_isSpace hc), stepBetween, hc]
  | token _ hw hapart ih =>
    obtain ⟨l, hl, hts⟩ := ih
    obtain ⟨l', hl', hts'⟩ := foldlM_token hw (reads_of_foldlM hl) hapart hts
    refine ⟨l', ?_, ?_⟩
    · rw [List.foldlM_append, hl]
      exact hl'
    · rw [hts', List.reverse_append]
      rfl

end Lexer

/-- A text is read as a sequence of tokens exactly when it lays them out. -/
theorem Token.scan_eq_some_iff {cs : List Char} {ts : List Token} :
    scan cs = some ts ↔ Layout cs ts := by
  rw [scan, Option.bind_eq_some_iff]
  constructor
  · rintro ⟨l, hl, hts⟩
    rw [Lexer.finish_eq, Option.map_eq_some_iff] at hts
    obtain ⟨reversed, hreversed, rfl⟩ := hts
    exact (Lexer.reads_of_foldlM hl).layout (by rw [hreversed, List.reverse_reverse])
  · intro h
    obtain ⟨l, hl, hts⟩ := Lexer.foldlM_layout h
    refine ⟨l, hl, ?_⟩
    rw [Lexer.finish_eq, hts, Option.map_some, List.reverse_reverse]

end Webhook.Json
