import Webhook.Text.Utf8

/-!
# UTF-8 read back

The UTF-8 form of a text is read as its characters (`ofUtf8?_utf8`), so that different texts have
different bytes (`utf8_injective`). A character takes one byte to four; the first tells how many,
and each byte after it brings six more bits (`step_continuation`).
-/

namespace Webhook

/-- A reader that takes one step for each item takes the step for the first one first. -/
theorem foldlM_cons_of_step {σ α : Type} {step : σ → α → Option σ} {s s' : σ} {a : α}
    (h : step s a = some s') (rest : List α) :
    (a :: rest).foldlM step s = rest.foldlM step s' := by
  rw [List.foldlM_cons, h]
  rfl

namespace Text

namespace Utf8Reader

variable {r : Utf8Reader}

/-- A first byte begins a character. -/
theorem step_first (h : r.missing = 0) {n : Nat} (hn : n < 256) :
    r.step (UInt8.ofNat n) = r.stepFirst n := by
  have hbyte : (UInt8.ofNat n).toNat = n := UInt8.toNat_ofNat_of_lt' hn
  unfold step
  rw [hbyte, if_pos h]

/-- A byte after the first brings six more bits. -/
theorem step_continuation (h : r.missing ≠ 0) (n : Nat) :
    r.step (UInt8.ofNat (n % 64 + 128)) =
      if 1 < r.missing then
        some { r with missing := r.missing - 1, code := 64 * r.code + n % 64 }
      else if r.least ≤ 64 * r.code + n % 64 ∧ (64 * r.code + n % 64).isValidChar then
        some ⟨Char.ofNat (64 * r.code + n % 64) :: r.reversed, 0, 0, 0⟩
      else none := by
  have hbyte : (UInt8.ofNat (n % 64 + 128)).toNat = n % 64 + 128 :=
    UInt8.toNat_ofNat_of_lt' (show _ < 256 by omega)
  have hmark : ¬ (n % 64 + 128) / 64 ≠ 2 := by omega
  have hbits : (n % 64 + 128) % 64 = n % 64 := by omega
  unfold step
  rw [hbyte, if_neg h, if_neg hmark, hbits]

/-- A byte that others follow brings its bits, and no more. -/
theorem step_middle (h : 1 < r.missing) (n : Nat) :
    r.step (UInt8.ofNat (n % 64 + 128)) =
      some { r with missing := r.missing - 1, code := 64 * r.code + n % 64 } := by
  rw [step_continuation (by omega), if_pos h]

/-- The last byte of a character completes it. -/
theorem step_last {c : Char} (h : r.missing = 1) (hcode : 64 * r.code + c.toNat % 64 = c.toNat)
    (hleast : r.least ≤ c.toNat) :
    r.step (UInt8.ofNat (c.toNat % 64 + 128)) = some ⟨c :: r.reversed, 0, 0, 0⟩ := by
  have hvalid : c.toNat.isValidChar := c.valid
  rw [step_continuation (by omega), if_neg (by omega), hcode, if_pos ⟨hleast, hvalid⟩,
    Char.ofNat_toNat]

/-- Between characters, the bytes of one more are read as that character. -/
theorem foldlM_utf8EncodeChar (c : Char) (h : r.missing = 0) :
    ∃ r', (String.utf8EncodeChar c).foldlM step r = some r' ∧ r'.missing = 0 ∧
      r'.reversed = c :: r.reversed := by
  have hvalid : c.toNat < 0x110000 := by
    have : c.toNat.isValidChar := c.valid
    unfold Nat.isValidChar at this
    omega
  simp only [String.utf8EncodeChar, Char.toNat_val]
  -- one case for each number of bytes
  split
  next hone =>
    have hfirst : r.step (UInt8.ofNat c.toNat) = some { r with reversed := c :: r.reversed } := by
      rw [step_first h (by omega), stepFirst, if_pos (by omega), Char.ofNat_toNat]
    exact ⟨_, foldlM_cons_of_step hfirst [], h, rfl⟩
  split
  next htwo =>
    have hfirst : r.step (UInt8.ofNat (c.toNat / 64 % 32 + 192)) =
        some { r with missing := 1, code := c.toNat / 64, least := 0x80 } := by
      rw [step_first h (by omega), stepFirst, if_neg (by omega), if_neg (by omega),
        if_pos (by omega), show c.toNat / 64 % 32 + 192 - 0xC0 = c.toNat / 64 by omega]
    refine ⟨⟨c :: r.reversed, 0, 0, 0⟩, ?_, rfl, rfl⟩
    rw [foldlM_cons_of_step hfirst]
    exact foldlM_cons_of_step (step_last rfl (by dsimp only; omega) (by dsimp only; omega)) []
  split
  next hthree =>
    have hfirst : r.step (UInt8.ofNat (c.toNat / 4096 % 16 + 224)) =
        some { r with missing := 2, code := c.toNat / 4096, least := 0x800 } := by
      rw [step_first h (by omega), stepFirst, if_neg (by omega), if_neg (by omega),
        if_neg (by omega), if_pos (by omega),
        show c.toNat / 4096 % 16 + 224 - 0xE0 = c.toNat / 4096 by omega]
    refine ⟨⟨c :: r.reversed, 0, 0, 0⟩, ?_, rfl, rfl⟩
    rw [foldlM_cons_of_step hfirst, foldlM_cons_of_step (step_middle (by simp) _)]
    exact foldlM_cons_of_step (step_last rfl (by dsimp only; omega) (by dsimp only; omega)) []
  next hfour =>
    have hfirst : r.step (UInt8.ofNat (c.toNat / 262144 % 8 + 240)) =
        some { r with missing := 3, code := c.toNat / 262144, least := 0x10000 } := by
      rw [step_first h (by omega), stepFirst, if_neg (by omega), if_neg (by omega),
        if_neg (by omega), if_neg (by omega), if_pos (by omega),
        show c.toNat / 262144 % 8 + 240 - 0xF0 = c.toNat / 262144 by omega]
    refine ⟨⟨c :: r.reversed, 0, 0, 0⟩, ?_, rfl, rfl⟩
    rw [foldlM_cons_of_step hfirst, foldlM_cons_of_step (step_middle (by simp) _),
      foldlM_cons_of_step (step_middle (by simp) _)]
    exact foldlM_cons_of_step (step_last rfl (by dsimp only; omega) (by dsimp only; omega)) []

end Utf8Reader

/-- The bytes of a text are read as its characters. -/
theorem ofUtf8?_utf8 (s : String) : ofUtf8? (utf8 s) = some s.toList := by
  have hchars : ∀ (cs : List Char) (r : Utf8Reader), r.missing = 0 →
      ∃ r', (cs.flatMap String.utf8EncodeChar).foldlM Utf8Reader.step r = some r' ∧
        r'.missing = 0 ∧ r'.reversed = cs.reverse ++ r.reversed := by
    intro cs
    -- after each character nothing is missing, so that the next one begins anew
    induction cs with
    | nil => exact fun r h => ⟨r, rfl, h, rfl⟩
    | cons c cs ih =>
      intro r h
      obtain ⟨r₁, h₁, hm₁, hr₁⟩ := Utf8Reader.foldlM_utf8EncodeChar c h
      obtain ⟨r₂, h₂, hm₂, hr₂⟩ := ih r₁ hm₁
      refine ⟨r₂, ?_, hm₂, ?_⟩
      · rw [List.flatMap_cons, List.foldlM_append, h₁]
        exact h₂
      · rw [hr₂, hr₁]
        simp
  obtain ⟨r, h, hm, hr⟩ := hchars s.toList Utf8Reader.start rfl
  have hreversed : r.reversed = s.toList.reverse := by simpa [Utf8Reader.start] using hr
  simp [ofUtf8?, utf8, h, hm, hreversed]

/-- Texts with equal bytes are equal. -/
theorem utf8_injective {s t : String} (h : utf8 s = utf8 t) : s = t := by
  have hs := ofUtf8?_utf8 s
  rw [h, ofUtf8?_utf8] at hs
  exact String.toList_inj.1 (Option.some.inj hs).symm

/-! ## Texts of ASCII characters -/

/-- A character of ASCII is one byte. -/
theorem utf8EncodeChar_of_lt {c : Char} (h : c.toNat < 0x80) :
    String.utf8EncodeChar c = [UInt8.ofNat c.toNat] := by
  have hle : c.toNat ≤ 0x7F := by omega
  simp [String.utf8EncodeChar, hle]

/-- The order of texts of ASCII characters is that of their bytes. -/
theorem utf8_lt_utf8 {s t : String} (hs : ∀ c ∈ s.toList, c.toNat < 0x80)
    (ht : ∀ c ∈ t.toList, c.toNat < 0x80) (h : s < t) : utf8 s < utf8 t := by
  have hchars : ∀ {cs ds : List Char}, List.Lex (· < ·) cs ds → (∀ c ∈ cs, c.toNat < 0x80) →
      (∀ d ∈ ds, d.toNat < 0x80) →
      List.Lex (· < ·) (cs.flatMap String.utf8EncodeChar) (ds.flatMap String.utf8EncodeChar) := by
    intro cs ds hlex hcs hds
    -- what is common in front takes the same bytes, and the first difference is one of bytes
    induction hlex with
    | @nil d ds =>
      rw [List.flatMap_cons, utf8EncodeChar_of_lt (hds d (by simp))]
      exact .nil
    | @rel c cs d ds hcd =>
      have hc := hcs c (by simp)
      have hd := hds d (by simp)
      rw [List.flatMap_cons, List.flatMap_cons, utf8EncodeChar_of_lt hc, utf8EncodeChar_of_lt hd]
      refine .rel ?_
      rw [UInt8.lt_iff_toNat_lt, UInt8.toNat_ofNat_of_lt' (show _ < 256 by omega),
        UInt8.toNat_ofNat_of_lt' (show _ < 256 by omega)]
      exact hcd
    | @cons c cs ds _ ih =>
      rw [List.flatMap_cons, List.flatMap_cons, utf8EncodeChar_of_lt (hcs c (by simp))]
      exact .cons (ih (fun x hx => hcs x (List.mem_cons_of_mem _ hx)) fun x hx =>
        hds x (List.mem_cons_of_mem _ hx))
  exact hchars h hs ht

end Text

end Webhook
