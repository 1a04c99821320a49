import Webhook.Digest.Hmac

/-!
# Keys of HMAC

A key acts as a block. Two keys act as the same block exactly if one of them, hashed where it is
longer than a block, is the other one with zeros after it (`Hmac.keyBlock_eq_iff`). Keys that act
as different blocks have different authentication codes for every message, unless two different
messages have the same SHA-256 (`Hmac.mac_eq_iff`).
-/

namespace Webhook.Digest

/-- A hash has 32 bytes. -/
theorem Sha256.length_hash (message : Bytes) : (hash message).length = 32 := rfl

/-- Two different messages have the same hash. -/
def Sha256.Collide (m m' : Bytes) : Prop := m ≠ m' ∧ hash m = hash m'

namespace Hmac

open Sha256 (blockSize)

variable {key key' : Bytes}

/-- A key, hashed if it is longer than a block. -/
def shortKey (key : Bytes) : Bytes :=
  if blockSize < key.length then Sha256.hash key else key

/-- A key is shortened to a block at most. -/
theorem length_shortKey (key : Bytes) : (shortKey key).length ≤ blockSize := by
  unfold shortKey
  split
  · rw [Sha256.length_hash]
    decide
  next h => exact Nat.le_of_not_lt h

/-- A key that fits into a block is not shortened. -/
theorem shortKey_of_le (h : key.length ≤ blockSize) : shortKey key = key :=
  if_neg (Nat.not_lt.2 h)

/-- The block of a key is the shortened key, filled up with zeros. -/
theorem keyBlock_eq (key : Bytes) :
    keyBlock key = shortKey key ++ List.replicate (blockSize - (shortKey key).length) 0 := rfl

/-- The block of a key is a whole block. -/
theorem length_keyBlock (key : Bytes) : (keyBlock key).length = blockSize := by
  have hshort := length_shortKey key
  rw [keyBlock_eq, List.length_append, List.length_replicate]
  omega

/-! ## The same key -/

/-- One of two sequences of bytes is the other one with zeros after it. -/
def EqUpToZeros (bytes bytes' : Bytes) : Prop :=
  ∃ n, bytes' = bytes ++ List.replicate n 0 ∨ bytes = bytes' ++ List.replicate n 0

/-- A key with zeros after it, if still no longer than a block, acts as the same block. -/
theorem keyBlock_eq_of_append {n : Nat} (h : shortKey key' = shortKey key ++ List.replicate n 0) :
    keyBlock key' = keyBlock key := by
  have hlength := length_shortKey key'
  rw [h, List.length_append, List.length_replicate] at hlength
  rw [keyBlock_eq, keyBlock_eq, h, List.append_assoc, List.replicate_append_replicate,
    List.length_append, List.length_replicate]
  congr 2
  omega

/-- The longer of two keys that act as the same block is the other one with zeros after it. -/
theorem exists_append_of_keyBlock_eq (h : keyBlock key = keyBlock key')
    (hle : (shortKey key).length ≤ (shortKey key').length) :
    ∃ n, shortKey key' = shortKey key ++ List.replicate n 0 := by
  refine ⟨min ((shortKey key').length - (shortKey key).length)
    (blockSize - (shortKey key).length), ?_⟩
  have htake := congrArg (List.take (shortKey key').length) h
  rw [keyBlock_eq, keyBlock_eq, List.take_left, List.take_append, List.take_of_length_le hle,
    List.take_replicate] at htake
  exact htake.symm

/-- Keys act as the same block exactly if, hashed where they are longer than a block, they differ in
zeros at the end only. -/
theorem keyBlock_eq_iff :
    keyBlock key = keyBlock key' ↔ EqUpToZeros (shortKey key) (shortKey key') := by
  constructor
  · intro h
    rcases Nat.le_total (shortKey key).length (shortKey key').length with hle | hle
    · obtain ⟨n, hn⟩ := exists_append_of_keyBlock_eq h hle
      exact ⟨n, .inl hn⟩
    · obtain ⟨n, hn⟩ := exists_append_of_keyBlock_eq h.symm hle
      exact ⟨n, .inr hn⟩
  · rintro ⟨n, hn | hn⟩
    · exact (keyBlock_eq_of_append hn).symm
    · exact keyBlock_eq_of_append hn

/-! ## Different keys -/

/-- What the outer of the two hashes is taken of, so that the authentication code is its hash. -/
def outerMessage (key message : Bytes) : Bytes :=
  (keyBlock key).map (· ^^^ 0x5c) ++
    Sha256.hash ((keyBlock key).map (· ^^^ 0x36) ++ message)

/-- The outer message begins with the block of the key, so that it tells different blocks apart. -/
theorem keyBlock_eq_of_outerMessage_eq {message message' : Bytes}
    (h : outerMessage key message = outerMessage key' message') : keyBlock key = keyBlock key' := by
  have hlength : ((keyBlock key).map (· ^^^ 0x5c)).length =
      ((keyBlock key').map (· ^^^ 0x5c)).length := by
    rw [List.length_map, List.length_map, length_keyBlock, length_keyBlock]
  obtain ⟨hmasked, -⟩ := List.append_inj h hlength
  have hmask : ∀ a b : UInt8, a ^^^ 0x5c = b ^^^ 0x5c → a = b :=
    fun _ _ => (UInt8.xor_left_inj 0x5c).1
  exact (List.map_inj_right hmask).1 hmasked

/-- The authentication codes of a message under two keys are equal exactly if the keys act as the
same block, or else the outer messages collide. -/
theorem mac_eq_iff (key key' message : Bytes) :
    mac key message = mac key' message ↔ keyBlock key = keyBlock key' ∨
      Sha256.Collide (outerMessage key message) (outerMessage key' message) := by
  constructor
  · intro h
    by_cases hblock : keyBlock key = keyBlock key'
    · exact .inl hblock
    · exact .inr ⟨fun houter => hblock (keyBlock_eq_of_outerMessage_eq houter), h⟩
  · rintro (h | ⟨-, h⟩)
    · rw [mac, mac, h]
    · exact h

end Hmac

end Webhook.Digest
