import Webhook.Proofs.Text.Hex
import Webhook.Proofs.Text.Utf8
import Webhook.Signature

/-!
# Signatures verify

The signature that is computed for a payload is accepted for that payload, under any secret
(`Signature.verify_compute`). Nothing else is accepted, but for blanks around it and for the case of
its letters (`Signature.verify_iff`). What is malformed (`Signature.Malformed`) is therefore refused
like any other text that is not the signature (`Signature.accepted_up_to_blanks_and_case`).
-/

namespace Webhook

namespace Signature

/-- A signature verifies for the payload and the secret that it was computed with. -/
theorem verify_compute (secret payload : Bytes) :
    verify secret payload (compute secret payload) = true := by
  simp [verify, compute, Text.Hex.trim_encode, Text.Hex.decode_encode]

/-- A text is accepted exactly if it is the signature, once it is trimmed and in lower case. -/
theorem verify_iff {secret payload : Bytes} {text : String} :
    verify secret payload text = true ↔ Text.lower (Text.trim text) = compute secret payload := by
  rw [verify, beq_iff_eq, Text.Hex.decode_eq_some_iff, compute]

/-! ## Texts that are refused -/

/-- Why a trimmed text is not the signature that has this text. -/
inductive Malformed (signature text : String) : Prop where
  /-- It has an odd number of bytes. -/
  | odd (h : (Text.utf8 text).length % 2 = 1)
  /-- A character is blank; it stands inside, since the text is trimmed. -/
  | blank (c : Char) (hc : c ∈ text.toList) (h : Text.isBlank c = true)
  /-- A character is no hexadecimal digit. -/
  | noDigit (c : Char) (hc : c ∈ text.toList) (h : c ∉ Text.Hex.digits)
  /-- A character is not one of ASCII. -/
  | notAscii (c : Char) (hc : c ∈ text.toList) (h : 0x80 ≤ c.toNat)
  /-- The signature goes on after it. -/
  | begins (rest : String) (hrest : rest ≠ "")
    (h : Text.sameIgnoringCase (text ++ rest) signature = true)
  /-- It goes on after the signature. -/
  | goesOn (rest : String) (hrest : rest ≠ "")
    (h : Text.sameIgnoringCase text (signature ++ rest) = true)

/-- Texts that differ in the case of letters only are equally long. -/
theorem toList_length_eq_of_sameIgnoringCase {s t : String}
    (h : Text.sameIgnoringCase s t = true) : s.toList.length = t.toList.length := by
  have hlower : Text.lower s = Text.lower t := beq_iff_eq.1 h
  simpa [Text.lower] using congrArg (fun u : String => u.toList.length) hlower

/-- A text that in lower case is the text of bytes is not malformed. -/
theorem not_malformed {text : String} {bytes : Bytes}
    (h : Text.lower text = Text.Hex.encode bytes) : ¬Malformed (Text.Hex.encode bytes) text := by
  have hdigits : ∀ c ∈ text.toList, c ∈ Text.Hex.digits := fun c hc =>
    Text.Hex.mem_digits_of_lower_eq h hc
  have hlength : text.toList.length = (Text.Hex.encode bytes).toList.length := by
    rw [← h]
    simp [Text.lower]
  have hpositive : ∀ rest : String, rest ≠ "" → 0 < rest.toList.length := by
    intro rest hrest
    exact List.length_pos_iff.2 fun hnil => hrest (String.toList_eq_nil_iff.1 hnil)
  intro hmalformed
  cases hmalformed with
  | odd hodd =>
    -- each digit is one byte, and there are two of them for each byte of the signature
    have hone : ∀ c ∈ text.toList, (String.utf8EncodeChar c).length = 1 := by
      intro c hc
      rw [Text.utf8EncodeChar_of_lt (Text.Hex.toNat_lt_of_mem_digits (hdigits c hc))]
      rfl
    have hbytes : (Text.utf8 text).length = text.toList.length := by
      rw [Text.utf8, List.length_flatMap, List.map_congr_left hone, List.map_const',
        List.sum_replicate_nat, Nat.mul_one]
    rw [hbytes, hlength, Text.Hex.encode, String.toList_ofList, Text.Hex.length_encodeChars] at hodd
    omega
  | blank c hc hblank =>
    rw [Text.Hex.isBlank_of_mem_digits (hdigits c hc)] at hblank
    cases hblank
  | noDigit c hc hno => exact hno (hdigits c hc)
  | notAscii c hc hlarge =>
    have := Text.Hex.toNat_lt_of_mem_digits (hdigits c hc)
    omega
  | begins rest hrest hsame =>
    have hlonger := toList_length_eq_of_sameIgnoringCase hsame
    have := hpositive rest hrest
    rw [String.toList_append, List.length_append] at hlonger
    omega
  | goesOn rest hrest hsame =>
    have hlonger := toList_length_eq_of_sameIgnoringCase hsame
    have := hpositive rest hrest
    rw [String.toList_append, List.length_append] at hlonger
    omega

/-- A text is accepted exactly if it is the signature in letters of either case, with blanks around
it. -/
theorem verify_iff_exists {secret payload : Bytes} {text : String} :
    verify secret payload text = true ↔ ∃ before inner after : String,
      text = before ++ inner ++ after ∧ Text.isBlankText before = true ∧
        Text.isBlankText after = true ∧ Text.lower inner = compute secret payload := by
  rw [verify_iff]
  constructor
  · intro h
    obtain ⟨before, after, hbefore, hafter, htext⟩ := Text.eq_append_trim text
    exact ⟨before, Text.trim text, after, htext, hbefore, hafter, h⟩
  · rintro ⟨before, inner, after, rfl, hbefore, hafter, h⟩
    -- what differs from digits in the case of letters only is not blank
    have hinner : ∀ c ∈ inner.toList, Text.isBlank c = false := fun c hc =>
      Text.Hex.isBlank_of_mem_digits (Text.Hex.mem_digits_of_lower_eq h hc)
    -- so that trimming takes away exactly what stands around it
    have htrim : Text.trim (before ++ inner ++ after) = inner := by
      rw [Text.trim, String.toList_append, String.toList_append,
        Text.trimChars_append (List.all_eq_true.1 hbefore) (List.all_eq_true.1 hafter),
        Text.trimChars_of_not_blank hinner, String.ofList_toList]
    rw [htrim, h]

end Signature

/-- A signature of an envelope is accepted for every envelope with the same canonical bytes. -/
theorem Envelope.verify_sign {e e' : Envelope} (h : e'.canonicalPayload = e.canonicalPayload)
    (secret : String) : e'.verify (e.sign secret) secret = true := by
  rw [verify, sign, h]
  exact Signature.verify_compute _ _

/-! ## What is accepted -/

namespace Signature

/-- A text is accepted for a payload under a secret exactly if its trimmed form in lower case is the
signature, that is, if it is the signature in letters of either case, with blanks around it. So an
envelope is accepted with its own signature, and a text whose trimmed form is malformed is refused,
whether for a payload or for an envelope. -/
theorem accepted_up_to_blanks_and_case (secret payload : Bytes) (text : String) :
    (verify secret payload text = true ↔
        Text.lower (Text.trim text) = compute secret payload) ∧
      (verify secret payload text = true ↔ ∃ before inner after : String,
        text = before ++ inner ++ after ∧ Text.isBlankText before = true ∧
          Text.isBlankText after = true ∧ Text.lower inner = compute secret payload) ∧
      (Malformed (compute secret payload) (Text.trim text) → verify secret payload text = false) ∧
      ∀ (e : Envelope) (s : String), e.verify (e.sign s) s = true ∧
        (Malformed (e.sign s) (Text.trim text) → e.verify text s = false) := by
  -- an accepted text has all digits of the signature, which a malformed one has not
  have hrefused : ∀ secret payload, Malformed (compute secret payload) (Text.trim text) →
      verify secret payload text = false := by
    intro secret payload hmalformed
    rw [Bool.eq_false_iff]
    exact fun haccepted => not_malformed (verify_iff.1 haccepted) hmalformed
  exact ⟨verify_iff, verify_iff_exists, hrefused secret payload, fun e s =>
    ⟨Envelope.verify_sign rfl s, hrefused (Text.utf8 s) e.canonicalPayload⟩⟩

/-- A signature with capitals and with blanks around it is accepted; with a digit more, or with a
blank inside, it is not. -/
theorem accepted_jefe :
    let key := Text.utf8 "Jefe"
    let data := Text.utf8 "what do ya want for nothing?"
    verify key data "\t5BDCC146BF60754E6A042426089575C75A003F089D2739839DEC58B964EC3843\n" = true ∧
      Malformed (compute key data) (Text.trim (compute key data ++ "0")) ∧
      verify key data (compute key data ++ "0") = false ∧
      Malformed (compute key data) (Text.trim "5bdcc146 bf60754e") ∧
      verify key data "5bdcc146 bf60754e" = false := by
  intro key data
  -- the only hash that is computed; the rest is about its digits
  have hcompute : compute key data =
      "5bdcc146bf60754e6a042426089575c75a003f089d2739839dec58b964ec3843" := by decide +kernel
  have hlonger : Malformed (compute key data) (Text.trim (compute key data ++ "0")) := by
    rw [hcompute]
    exact .goesOn "0" (by decide) (by decide)
  have hblank : Malformed (compute key data) (Text.trim "5bdcc146 bf60754e") :=
    .blank ' ' (by decide) (by decide)
  obtain ⟨haccepted, -⟩ := accepted_up_to_blanks_and_case key data
    "\t5BDCC146BF60754E6A042426089575C75A003F089D2739839DEC58B964EC3843\n"
  obtain ⟨-, -, hrefused, -⟩ := accepted_up_to_blanks_and_case key data (compute key data ++ "0")
  obtain ⟨-, -, hrefused', -⟩ := accepted_up_to_blanks_and_case key data "5bdcc146 bf60754e"
  refine ⟨haccepted.2 ?_, hlonger, hrefused hlonger, hblank, hrefused' hblank⟩
  rw [hcompute]
  decide

end Signature

end Webhook
