import Webhook.Digest.Sha256

/-!
# HMAC with SHA-256

A keyed hash: two hashes, one inside the other, each under the key with a mask. A key longer than a
block is hashed first, and a shorter one is filled up with zero bytes, so two keys no longer than a
block that differ in trailing zero bytes only are the same key.
-/

namespace Webhook.Digest.Hmac

open Sha256 (blockSize)

/-- The block that a key acts as: hashed when longer than a block, then filled up with zeros. -/
def keyBlock (key : Bytes) : Bytes :=
  let short := if blockSize < key.length then Sha256.hash key else key
  short ++ List.replicate (blockSize - short.length) 0

/-- The authentication code of a message under a key, as 32 bytes. -/
def mac (key message : Bytes) : Bytes :=
  let block := keyBlock key
  let inner := Sha256.hash (block.map (· ^^^ 0x36) ++ message)
  Sha256.hash (block.map (· ^^^ 0x5c) ++ inner)

end Webhook.Digest.Hmac
