import Webhook.Text.Utf8

/-!
# SHA-256

The hash of FIPS 180-4: a message is padded to whole blocks of 64 bytes, and each block is mixed
into a state of eight words in 64 rounds. The message schedule is kept as a window of the sixteen
words that the next one depends on, so a round takes its word from the front of the window.
-/

namespace Webhook.Digest.Sha256

/-- The number of bytes in a block. -/
def blockSize : Nat := 64

/-! ## Words -/

/-- The four bytes of a word, the most significant first. -/
def wordBytes (w : UInt32) : Bytes :=
  [(w >>> 24).toUInt8, (w >>> 16).toUInt8, (w >>> 8).toUInt8, w.toUInt8]

/-- The words that groups of four bytes stand for; bytes short of a group are left out. -/
def words : Bytes → List UInt32
  | a :: b :: c :: d :: rest =>
    (a.toUInt32 <<< 24 ||| b.toUInt32 <<< 16 ||| c.toUInt32 <<< 8 ||| d.toUInt32) :: words rest
  | _ => []

/-- A word turned right by `n` places, for `n` from 1 to 31. -/
def rotr (w n : UInt32) : UInt32 :=
  w >>> n ||| w <<< (32 - n)

/-- The first function of the message schedule. -/
def smallSigma0 (w : UInt32) : UInt32 :=
  rotr w 7 ^^^ rotr w 18 ^^^ w >>> 3

/-- The second function of the message schedule. -/
def smallSigma1 (w : UInt32) : UInt32 :=
  rotr w 17 ^^^ rotr w 19 ^^^ w >>> 10

/-- The function of a round on the word `a`. -/
def bigSigma0 (w : UInt32) : UInt32 :=
  rotr w 2 ^^^ rotr w 13 ^^^ rotr w 22

/-- The function of a round on the word `e`. -/
def bigSigma1 (w : UInt32) : UInt32 :=
  rotr w 6 ^^^ rotr w 11 ^^^ rotr w 25

/-- The word that takes `y` where `x` has ones and `z` where it has zeros. -/
def choose (x y z : UInt32) : UInt32 :=
  (x &&& y) ^^^ (~~~x &&& z)

/-- The word of the bits that at least two of the three words have. -/
def majority (x y z : UInt32) : UInt32 :=
  (x &&& y) ^^^ (x &&& z) ^^^ (y &&& z)

/-! ## Rounds -/

/-- The eight words of the state between blocks and between rounds. -/
structure State where
  /-- The first word. -/
  a : UInt32
  /-- The second word. -/
  b : UInt32
  /-- The third word. -/
  c : UInt32
  /-- The fourth word. -/
  d : UInt32
  /-- The fifth word. -/
  e : UInt32
  /-- The sixth word. -/
  f : UInt32
  /-- The seventh word. -/
  g : UInt32
  /-- The eighth word. -/
  h : UInt32

/-- The state before the first block: fractional parts of the square roots of the first primes. -/
def State.initial : State :=
  ⟨0x6a09e667, 0xbb67ae85, 0x3c6ef372, 0xa54ff53a, 0x510e527f, 0x9b05688c, 0x1f83d9ab, 0x5be0cd19⟩

/-- The wordwise sum of two states. -/
def State.add (s t : State) : State :=
  ⟨s.a + t.a, s.b + t.b, s.c + t.c, s.d + t.d, s.e + t.e, s.f + t.f, s.g + t.g, s.h + t.h⟩

/-- The bytes of a state, word by word. -/
def State.bytes (s : State) : Bytes :=
  [s.a, s.b, s.c, s.d, s.e, s.f, s.g, s.h].flatMap wordBytes

/-- The constants of the rounds: fractional parts of the cube roots of the first 64 primes. -/
def roundConstants : List UInt32 :=
  [0x428a2f98, 0x71374491, 0xb5c0fbcf, 0xe9b5dba5, 0x3956c25b, 0x59f111f1, 0x923f82a4, 0xab1c5ed5,
   0xd807aa98, 0x12835b01, 0x243185be, 0x550c7dc3, 0x72be5d74, 0x80deb1fe, 0x9bdc06a7, 0xc19bf174,
   0xe49b69c1, 0xefbe4786, 0x0fc19dc6, 0x240ca1cc, 0x2de92c6f, 0x4a7484aa, 0x5cb0a9dc, 0x76f988da,
   0x983e5152, 0xa831c66d, 0xb00327c8, 0xbf597fc7, 0xc6e00bf3, 0xd5a79147, 0x06ca6351, 0x14292967,
   0x27b70a85, 0x2e1b2138, 0x4d2c6dfc, 0x53380d13, 0x650a7354, 0x766a0abb, 0x81c2c92e, 0x92722c85,
   0xa2bfe8a1, 0xa81a664b, 0xc24b8b70, 0xc76c51a3, 0xd192e819, 0xd6990624, 0xf40e3585, 0x106aa070,
   0x19a4c116, 0x1e376c08, 0x2748774c, 0x34b0bcb5, 0x391c0cb3, 0x4ed8aa4a, 0x5b9cca4f, 0x682e6ff3,
   0x748f82ee, 0x78a5636f, 0x84c87814, 0x8cc70208, 0x90befffa, 0xa4506ceb, 0xbef9a3f7, 0xc67178f2]

/-- One round, with the constant `k` and the scheduled word `w`. -/
def State.round (s : State) (k w : UInt32) : State :=
  let t1 := s.h + bigSigma1 s.e + choose s.e s.f s.g + k + w
  let t2 := bigSigma0 s.a + majority s.a s.b s.c
  ⟨t1 + t2, s.a, s.b, s.c, s.d + t1, s.e, s.f, s.g⟩

/-- The scheduled word that follows a window of sixteen. -/
def nextWord (window : List UInt32) : UInt32 :=
  smallSigma1 (window.getD 14 0) + window.getD 9 0 + smallSigma0 (window.getD 1 0) +
    window.getD 0 0

/-- The rounds of one block: each takes the front of the window, which moves on by one word. -/
def State.rounds (s : State) (window : List UInt32) : List UInt32 → State
  | [] => s
  | k :: ks =>
    (s.round k (window.getD 0 0)).rounds (window.tail ++ [nextWord window]) ks

/-- The state after one more block. -/
def State.compress (s : State) (block : Bytes) : State :=
  s.add (s.rounds (words block) roundConstants)

/-! ## Messages -/

/-- What follows a message of `n` bytes: the byte 80, zeros up to a whole block less eight bytes,
and the length in bits as eight bytes, the most significant first. -/
def padding (n : Nat) : Bytes :=
  let bits := UInt64.ofNat (8 * n)
  let zeros : Bytes := List.replicate ((blockSize - (n + 9) % blockSize) % blockSize) 0
  0x80 :: zeros ++ wordBytes (bits >>> 32).toUInt32 ++ wordBytes bits.toUInt32

/-- The state after the first `n` blocks of a sequence of bytes. -/
def State.absorb (s : State) : Nat → Bytes → State
  | 0, _ => s
  | n + 1, bytes => (s.compress (bytes.take blockSize)).absorb n (bytes.drop blockSize)

/-- The hash of a message, as 32 bytes. -/
def hash (message : Bytes) : Bytes :=
  let padded := message ++ padding message.length
  (State.initial.absorb (padded.length / blockSize) padded).bytes

end Webhook.Digest.Sha256
