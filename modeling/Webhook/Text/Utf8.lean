/-!
# Texts as bytes

Keys, bodies and signatures are sequences of bytes; a text enters them in its UTF-8 form. Bytes are
read back by a machine of one step for each byte, which refuses what is not the shortest form of a
character.
-/

namespace Webhook

/-- A sequence of bytes. -/
abbrev Bytes := List UInt8

namespace Text

/-- The UTF-8 form of a text. -/
def utf8 (s : String) : Bytes :=
  s.toList.flatMap String.utf8EncodeChar

/-- The state of the machine that reads UTF-8. -/
structure Utf8Reader where
  /-- The characters so far, in reverse. -/
  reversed : List Char
  /-- How many bytes of the current character are still to come. -/
  missing : Nat
  /-- The bits of the current character so far. -/
  code : Nat
  /-- The least code point that takes as many bytes as the current character. -/
  least : Nat

namespace Utf8Reader

/-- The state before the first byte. -/
def start : Utf8Reader := ⟨[], 0, 0, 0⟩

/-- The first byte of a character. -/
def stepFirst (r : Utf8Reader) (b : Nat) : Option Utf8Reader :=
  if b < 0x80 then some { r with reversed := Char.ofNat b :: r.reversed }
  else if b < 0xC0 then none
  else if b < 0xE0 then some { r with missing := 1, code := b - 0xC0, least := 0x80 }
  else if b < 0xF0 then some { r with missing := 2, code := b - 0xE0, least := 0x800 }
  else if b < 0xF8 then some { r with missing := 3, code := b - 0xF0, least := 0x10000 }
  else none

/-- One byte. -/
def step (r : Utf8Reader) (byte : UInt8) : Option Utf8Reader :=
  let b := byte.toNat
  if r.missing = 0 then r.stepFirst b
  else if b / 64 ≠ 2 then none
  else
    let code := 64 * r.code + b % 64
    if 1 < r.missing then some { r with missing := r.missing - 1, code := code }
    else if r.least ≤ code ∧ code.isValidChar then
      some ⟨Char.ofNat code :: r.reversed, 0, 0, 0⟩
    else none

end Utf8Reader

/-- The characters that bytes are the UTF-8 form of. -/
def ofUtf8? (bytes : Bytes) : Option (List Char) := do
  let r ← bytes.foldlM Utf8Reader.step Utf8Reader.start
  if r.missing = 0 then some r.reversed.reverse else none

end Text

end Webhook
