import Webhook.Json.Numeral
import Webhook.Number.Binary64

/-!
# JSON numbers

A numeral without fraction and exponent is an integer where it fits a word of 64 bits, with or
without a sign; minus zero, longer integers and all other numerals are double-precision numbers.

The reader of the latter does not round the numeral as a whole. It keeps the digits while they fit
an unsigned word of 64 bits, counts the others into the power of ten, rounds the digits kept, and
multiplies or divides that by the rounded power. So a numeral may be read as a neighbour of the
number nearest to it. A numeral beyond the range of double precision is no number; one too small is
a zero.
-/

namespace Webhook.Json

/-- An integer that fits a word of 64 bits, as unsigned or as signed one. -/
structure Integer where
  /-- The integer. -/
  val : Int
  /-- It is no less than the least signed word. -/
  lower : -9223372036854775808 ≤ val
  /-- It is less than the number of unsigned words. -/
  upper : val < 18446744073709551616
  deriving DecidableEq

/-- The integer as one that fits a word of 64 bits. -/
def Integer.ofInt? (i : Int) : Option Integer :=
  if h : -9223372036854775808 ≤ i ∧ i < 18446744073709551616 then some ⟨i, h.1, h.2⟩ else none

/-- A number of a JSON value. -/
inductive Number where
  /-- An integer. -/
  | integer (i : Integer)
  /-- A double-precision number. -/
  | float (x : Binary64)
  deriving DecidableEq

/-! ## Digits and powers of ten -/

/-- The value of a decimal digit. -/
def digitValue (c : Char) : Nat := c.toNat - 48

/-- Reads whole digits onto `m`; once one does not fit, the rest is only counted. -/
def readWhole (m : Nat) : List Char → Nat × Nat
  | [] => (m, 0)
  | d :: ds =>
    let next := 10 * m + digitValue d
    if next < UInt64.size then readWhole next ds else (m, ds.length + 1)

/-- Reads digits after the point onto `m` while they fit, and counts those read. -/
def readFraction (m : Nat) : List Char → Nat × Nat
  | [] => (m, 0)
  | d :: ds =>
    let next := 10 * m + digitValue d
    if next < UInt64.size then
      let (m', count) := readFraction next ds
      (m', count + 1)
    else (m, 0)

/-- The signed number of an exponent. -/
def Exponent.toInt (e : Exponent) : Int :=
  let n : Int := Nat.ofDigitChars 10 e.digits 0
  if e.negative then -n else n

/-- The digits that the reader keeps of a numeral, and the power of ten that they are taken
times. -/
def Numeral.scaled (n : Numeral) : Nat × Int :=
  let (m, dropped) := readWhole 0 n.whole
  let (m, taken) := readFraction m (n.fraction.getD [])
  (m, (dropped : Int) - taken + (n.exponent.map Exponent.toInt).getD 0)

/-- The code of the rounded power `10 ^ k`, for `k` up to 308. -/
def powerOfTen (k : Nat) : Nat := Binary64.ofNat (Nat.pow 10 k)

/-- The code of `m * 10 ^ e`, from the rounded `m` and rounded powers. The greatest power is
`10 ^ 308`; a lesser quotient is taken in two steps, and is zero below that since `m` is a word. -/
def scale? (m : Nat) (e : Int) : Option Nat :=
  let f := Binary64.ofNat m
  if m = 0 then some 0
  else if 308 < e then none
  else if 0 ≤ e then
    let code := Binary64.mul f (powerOfTen e.toNat)
    if code < Binary64.infinity then some code else none
  else if -308 ≤ e then some (Binary64.div f (powerOfTen (-e).toNat))
  else if -616 ≤ e then
    some (Binary64.div (Binary64.div f (powerOfTen 308)) (powerOfTen (-e - 308).toNat))
  else some 0

/-- The double-precision number that a numeral is read as. -/
def Numeral.float? (n : Numeral) : Option Binary64 := do
  let (m, e) := n.scaled
  Binary64.ofCode? n.negative (← scale? m e)

/-- The integer of a numeral, unless it is read as a double-precision number. -/
def Numeral.integer? (n : Numeral) : Option Integer :=
  if !n.isInteger then none
  else if !n.negative then Integer.ofInt? n.natural
  else if n.natural = 0 then none
  else Integer.ofInt? (-n.natural)

/-- The number that a numeral is read as. -/
def Number.ofNumeral? (n : Numeral) : Option Number :=
  match n.integer? with
  | some i => some (.integer i)
  | none => n.float?.map .float

end Webhook.Json
