import Webhook.Proofs.Digest.Keys
import Webhook.Proofs.Registry.Validity
import Webhook.Proofs.Signature
import Webhook.Proofs.Text.Utf8

/-!
# Which secrets accept one another's signatures

The signature of an envelope under one secret is accepted under another one exactly if the two act
as the same key, or else two different messages with the same SHA-256 are at hand
(`Envelope.verify_sign_iff`). Among secrets of at most 64 bytes, those act as the same key that
differ in null characters at the end only. The registry takes such secrets for different ones
(`Registry.Sample.padded_accepted`).
-/

namespace Webhook

open Digest

/-! ## The same key -/

/-- A text of null characters. -/
def nulls (n : Nat) : String := String.ofList (List.replicate n '\x00')

/-- A null character is written as a zero byte. -/
theorem Text.utf8_append_nulls (s : String) (n : Nat) :
    utf8 (s ++ nulls n) = utf8 s ++ List.replicate n 0 := by
  have hnulls : ∀ n, (List.replicate n '\x00').flatMap String.utf8EncodeChar =
      List.replicate n (0 : UInt8) := by
    intro n
    induction n with
    | zero => rfl
    | succ n ih =>
      rw [List.replicate_succ, List.flatMap_cons, ih]
      rfl
  rw [utf8, String.toList_append, List.flatMap_append, nulls, String.toList_ofList, hnulls, utf8]

/-- Two secrets act as the same key. -/
def SameKey (s s' : String) : Prop :=
  Hmac.keyBlock (Text.utf8 s) = Hmac.keyBlock (Text.utf8 s')

/-- Secrets no longer than a block act as the same key exactly if one of them is the other one with
null characters after it. -/
theorem sameKey_iff {s s' : String} (h : (Text.utf8 s).length ≤ Sha256.blockSize)
    (h' : (Text.utf8 s').length ≤ Sha256.blockSize) :
    SameKey s s' ↔ ∃ n, s' = s ++ nulls n ∨ s = s' ++ nulls n := by
  have hbytes : ∀ (s s' : String) (n : Nat),
      Text.utf8 s' = Text.utf8 s ++ List.replicate n 0 ↔ s' = s ++ nulls n := by
    intro s s' n
    rw [← Text.utf8_append_nulls]
    exact ⟨Text.utf8_injective, congrArg _⟩
  calc SameKey s s'
      ↔ Hmac.EqUpToZeros (Hmac.shortKey (Text.utf8 s)) (Hmac.shortKey (Text.utf8 s')) :=
        Hmac.keyBlock_eq_iff
    _ ↔ Hmac.EqUpToZeros (Text.utf8 s) (Text.utf8 s') := by
        rw [Hmac.shortKey_of_le h, Hmac.shortKey_of_le h']
    _ ↔ ∃ n, s' = s ++ nulls n ∨ s = s' ++ nulls n :=
        exists_congr fun n => or_congr (hbytes s s' n) (hbytes s' s n)

/-! ## Signatures -/

/-- A signature under one key is accepted under another one exactly if the authentication codes are
equal. -/
theorem Signature.verify_compute_iff {key key' payload : Bytes} :
    verify key' payload (compute key payload) = true ↔
      Hmac.mac key payload = Hmac.mac key' payload := by
  rw [verify, compute, Text.Hex.trim_encode, Text.Hex.decode_encode, beq_iff_eq, Option.some.injEq]

/-- Secrets that act as the same key accept one another's signatures, whatever is signed. -/
theorem Envelope.verify_sign_of_sameKey {s s' : String} (h : SameKey s s') (e : Envelope) :
    e.verify (e.sign s) s' = true :=
  Signature.verify_compute_iff.2 ((Hmac.mac_eq_iff _ _ _).2 (.inl h))

/-- The signature of an envelope under one secret is accepted under another one exactly if the two
act as the same key, or if the outer messages of the two authentication codes collide. Secrets act
as the same key exactly if, hashed where they are longer than a block, they differ in zero bytes at
the end only; for those that are no longer, in null characters at the end. -/
theorem Envelope.verify_sign_iff (e : Envelope) (s s' : String) :
    (e.verify (e.sign s) s' = true ↔ SameKey s s' ∨
        Sha256.Collide (Hmac.outerMessage (Text.utf8 s) e.canonicalPayload)
          (Hmac.outerMessage (Text.utf8 s') e.canonicalPayload)) ∧
      (SameKey s s' ↔
        Hmac.EqUpToZeros (Hmac.shortKey (Text.utf8 s)) (Hmac.shortKey (Text.utf8 s'))) ∧
      ((Text.utf8 s).length ≤ Sha256.blockSize → (Text.utf8 s').length ≤ Sha256.blockSize →
        (SameKey s s' ↔ ∃ n, s' = s ++ nulls n ∨ s = s' ++ nulls n)) :=
  ⟨Signature.verify_compute_iff.trans (Hmac.mac_eq_iff _ _ _), Hmac.keyBlock_eq_iff, sameKey_iff⟩

/-- Two secrets that differ in their last digit are different keys: if one accepts what was signed
under the other, there is a collision. -/
theorem Envelope.verify_sign_digits :
    (sampleEnvelope "first").verify ((sampleEnvelope "first").sign "s1") "s2" = true →
      Sha256.Collide
        (Hmac.outerMessage (Text.utf8 "s1") (sampleEnvelope "first").canonicalPayload)
        (Hmac.outerMessage (Text.utf8 "s2") (sampleEnvelope "first").canonicalPayload) := by
  obtain ⟨hverify, -, hsame⟩ := verify_sign_iff (sampleEnvelope "first") "s1" "s2"
  have hdifferent : ¬SameKey "s1" "s2" := by
    rw [hsame (by decide) (by decide)]
    rintro ⟨n, h | h⟩ <;> simpa [String.toList_append] using congrArg String.toList h
  exact fun h => (hverify.1 h).resolve_left hdifferent

/-! ## Secrets that the registry takes -/

namespace Registry.Sample

/-- One endpoint with a secret, and one with a null character after the same secret. -/
def padded : List Call :=
  [.act (.register (draw "one") { hook with secret := some "s" }),
    .act (.register (draw "two") { hook with secret := some "s\x00" })]

/-- Both are registered with the secrets that they were given, and for every envelope, either of the
two different secrets accepts what was signed under the other. -/
theorem padded_accepted :
    ∃ e ∈ ((empty ⟨3, 1⟩).after padded).list, ∃ e' ∈ ((empty ⟨3, 1⟩).after padded).list,
      e.secret = "s" ∧ e'.secret = "s\x00" ∧ e.secret ≠ e'.secret ∧
        ∀ envelope : Envelope,
          envelope.verify (envelope.sign e.secret) e'.secret = true ∧
            envelope.verify (envelope.sign e'.secret) e.secret = true := by
  have hregistered : ∃ e ∈ ((empty ⟨3, 1⟩).after padded).list,
      ∃ e' ∈ ((empty ⟨3, 1⟩).after padded).list, e.secret = "s" ∧ e'.secret = "s\x00" := by
    decide +kernel
  obtain ⟨e, he, e', he', hs, hs'⟩ := hregistered
  -- a key that is shorter than a block is padded with zero bytes
  have hsame : SameKey "s" "s\x00" := (sameKey_iff (by decide) (by decide)).2 ⟨1, .inl rfl⟩
  refine ⟨e, he, e', he', hs, hs', ?_, ?_⟩
  · rw [hs, hs']
    decide
  · intro envelope
    rw [hs, hs']
    exact ⟨envelope.verify_sign_of_sameKey hsame, envelope.verify_sign_of_sameKey hsame.symm⟩

end Registry.Sample

end Webhook
