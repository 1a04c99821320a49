import Webhook.Proofs.Text.Blank
import Webhook.Text.Case
import Webhook.Text.Hex

/-!
# Hexadecimal text and its bytes

`decode` takes back what `encode` writes (`decode_encode`), and nothing else but the same text in
letters of either case (`decode_eq_some_iff`). The digits that `encode` writes are printable and not
blank, so that trimming the text leaves it alone (`trim_encode`).
-/

namespace Webhook.Text

namespace Hex

/-! ## Digits -/

/-- The digit of a number below sixteen has that value. -/
theorem value?_digit {n : Nat} (h : n < 16) : value? (digit n) = some n := by
  have hall : ∀ n < 16, value? (digit n) = some n := by decide
  exact hall n h

/-- The digits are among the printable characters of ASCII. -/
theorem toNat_digit {n : Nat} (h : n < 16) : 0x30 ≤ (digit n).toNat ∧ (digit n).toNat ≤ 0x66 := by
  have hall : ∀ n < 16, 0x30 ≤ (digit n).toNat ∧ (digit n).toNat ≤ 0x66 := by decide
  exact hall n h

/-- A digit is not blank. -/
theorem isBlank_digit {n : Nat} (h : n < 16) : isBlank (digit n) = false := by
  have hall : ∀ n < 16, isBlank (digit n) = false := by decide
  exact hall n h

/-! ## Bytes -/

/-- Each half of a byte is below sixteen. -/
theorem halves_lt (b : UInt8) : b.toNat / 16 < 16 ∧ b.toNat % 16 < 16 := by
  have := b.toNat_lt
  omega

/-- The text of bytes consists of digits. -/
theorem exists_digit {bytes : Bytes} {c : Char} (hc : c ∈ (encode bytes).toList) :
    ∃ n < 16, c = digit n := by
  rw [encode, String.toList_ofList, encodeChars, List.mem_flatMap] at hc
  obtain ⟨b, -, hc⟩ := hc
  obtain ⟨hhigh, hlow⟩ := halves_lt b
  simp only [encodeByte, List.mem_cons, List.not_mem_nil, or_false] at hc
  rcases hc with rfl | rfl
  · exact ⟨_, hhigh, rfl⟩
  · exact ⟨_, hlow, rfl⟩

/-- The digits of bytes are read back as these bytes. -/
theorem decodeChars_encodeChars (bytes : Bytes) :
    decodeChars (encodeChars bytes) = some bytes := by
  induction bytes with
  | nil => rfl
  | cons b bytes ih =>
    obtain ⟨hhigh, hlow⟩ := halves_lt b
    have hbyte : UInt8.ofNat (16 * (b.toNat / 16) + b.toNat % 16) = b := by
      rw [Nat.div_add_mod, UInt8.ofNat_toNat]
    have hcons : encodeChars (b :: bytes) =
        digit (b.toNat / 16) :: digit (b.toNat % 16) :: encodeChars bytes := rfl
    rw [hcons, decodeChars, value?_digit hhigh, value?_digit hlow, ih]
    exact congrArg (fun c => some (c :: bytes)) hbyte

/-- The bytes of a text of bytes are those bytes. -/
theorem decode_encode (bytes : Bytes) : decode (encode bytes) = some bytes := by
  rw [decode, encode, String.toList_ofList, decodeChars_encodeChars]

/-- There is nothing to trim off a text of bytes. -/
theorem trim_encode (bytes : Bytes) : trim (encode bytes) = encode bytes := by
  have hblank : ∀ c ∈ (encode bytes).toList, isBlank c = false := by
    intro c hc
    obtain ⟨n, hn, rfl⟩ := exists_digit hc
    exact isBlank_digit hn
  rw [trim, trimChars_of_not_blank hblank, String.ofList_toList]

/-! ## Letters of either case -/

/-- A digit keeps its value in lower case. -/
theorem value?_lowerChar (c : Char) : value? (lowerChar c) = value? c := by
  have hletters : ∀ n < 91, 65 ≤ n →
      value? (Char.ofNat (n + 32)) = value? (Char.ofNat n) := by decide
  by_cases h : 'A' ≤ c ∧ c ≤ 'Z'
  · have hfirst : 65 ≤ c.toNat := h.1
    have hlast : c.toNat ≤ 90 := h.2
    rw [show lowerChar c = Char.ofNat (c.toNat + 32) from if_pos h,
      hletters c.toNat (by omega) hfirst, Char.ofNat_toNat]
  · rw [show lowerChar c = c from if_neg h]

/-- Only characters before the letter after the last digit have a value. -/
theorem toNat_lt_of_value? {c : Char} {n : Nat} (h : value? c = some n) : c.toNat < 0x67 := by
  unfold value? at h
  dsimp only at h
  split at h
  · omega
  split at h
  · omega
  split at h
  · omega
  · cases h

/-- A character has a value exactly if in lower case it is the digit of that value. -/
theorem value?_eq_some_iff {c : Char} {n : Nat} :
    value? c = some n ↔ n < 16 ∧ lowerChar c = digit n := by
  constructor
  · intro h
    have hsmall : ∀ code < 0x67, ∀ m ∈ value? (Char.ofNat code),
        m < 16 ∧ lowerChar (Char.ofNat code) = digit m := by
      decide
    have hcode := toNat_lt_of_value? h
    exact Char.ofNat_toNat c ▸ hsmall c.toNat hcode n (by rw [Char.ofNat_toNat]; exact h)
  · rintro ⟨hn, hc⟩
    rw [← value?_lowerChar, hc, value?_digit hn]

/-- The number of two digits is a byte, whose halves they are. -/
theorem encodeByte_ofNat {high low : Nat} (hh : high < 16) (hl : low < 16) :
    encodeByte (UInt8.ofNat (16 * high + low)) = [digit high, digit low] := by
  have hbyte : (UInt8.ofNat (16 * high + low)).toNat = 16 * high + low :=
    UInt8.toNat_ofNat_of_lt' (show _ < 256 by omega)
  rw [encodeByte, hbyte, show (16 * high + low) / 16 = high by omega,
    show (16 * high + low) % 16 = low by omega]

/-- Characters are read as bytes exactly if in lower case they are the digits of these. -/
theorem decodeChars_eq_some_iff {cs : List Char} {bytes : Bytes} :
    decodeChars cs = some bytes ↔ cs.map lowerChar = encodeChars bytes := by
  constructor
  · intro h
    fun_induction decodeChars cs generalizing bytes with
    | case1 =>
      cases h
      rfl
    | case2 => cases h
    | case3 high low rest ih =>
      simp only [Option.bind_eq_bind, Option.bind_eq_some_iff] at h
      obtain ⟨a, ha, b, hb, bs, hbs, he⟩ := h
      cases he
      obtain ⟨hla, hlowa⟩ := value?_eq_some_iff.1 ha
      obtain ⟨hlb, hlowb⟩ := value?_eq_some_iff.1 hb
      rw [List.map_cons, List.map_cons, hlowa, hlowb, ih hbs, encodeChars, encodeChars,
        List.flatMap_cons, encodeByte_ofNat hla hlb]
      rfl
  · intro h
    -- case of letters does not matter to the reader
    have hlower : ∀ cs : List Char, decodeChars (cs.map lowerChar) = decodeChars cs := by
      intro cs
      fun_induction decodeChars cs with
      | case1 => rfl
      | case2 => rfl
      | case3 high low rest ih =>
        simp only [List.map_cons, decodeChars, value?_lowerChar, ih]
    rw [← hlower, h, decodeChars_encodeChars]

/-- Two digits are written for each byte. -/
theorem length_encodeChars (bytes : Bytes) : (encodeChars bytes).length = 2 * bytes.length := by
  induction bytes with
  | nil => rfl
  | cons b bytes ih =>
    have hcons : encodeChars (b :: bytes) = encodeByte b ++ encodeChars bytes := rfl
    rw [hcons, List.length_append, ih, List.length_cons, encodeByte, List.length_cons,
      List.length_singleton]
    omega

/-- The digits of either case. -/
def digits : List Char := "0123456789abcdefABCDEF".toList

/-- Digits are ASCII characters. -/
theorem toNat_lt_of_mem_digits {c : Char} (h : c ∈ digits) : c.toNat < 0x80 := by
  have hall : digits.all (fun c => c.toNat < 0x80) = true := by decide
  exact of_decide_eq_true (List.all_eq_true.1 hall c h)

/-- Digits of either case are not blank. -/
theorem isBlank_of_mem_digits {c : Char} (h : c ∈ digits) : isBlank c = false := by
  have hall : digits.all (fun c => !isBlank c) = true := by decide
  simpa using List.all_eq_true.1 hall c h

/-- A text that in lower case is the text of bytes consists of digits. -/
theorem mem_digits_of_lower_eq {s : String} {bytes : Bytes} (h : lower s = encode bytes) {c : Char}
    (hc : c ∈ s.toList) : c ∈ digits := by
  have hlower : lowerChar c ∈ (encode bytes).toList := by
    rw [← h, lower, String.toList_ofList]
    exact List.mem_map_of_mem hc
  obtain ⟨n, hn, hdigit⟩ := exists_digit hlower
  have hvalue : value? c = some n := value?_eq_some_iff.2 ⟨hn, hdigit⟩
  have hall : ∀ code < 0x67, (value? (Char.ofNat code)).isSome → Char.ofNat code ∈ digits := by
    decide
  have hmem := hall c.toNat (toNat_lt_of_value? hvalue)
  rw [Char.ofNat_toNat] at hmem
  exact hmem (hvalue ▸ rfl)

/-- A text is read as bytes exactly if in lower case it is the text of these. -/
theorem decode_eq_some_iff {s : String} {bytes : Bytes} :
    decode s = some bytes ↔ lower s = encode bytes := by
  rw [decode, decodeChars_eq_some_iff, lower, encode, String.ofList_inj]

end Hex

end Webhook.Text
