/-!
# Finite double-precision numbers

A finite number of IEEE 754 binary64 is a sign and a magnitude. The magnitude is given by its code:
the 63 low bits of the number's encoding read as a natural number, so that codes are ordered as the
magnitudes are, and the next code is the next magnitude. `units` is the magnitude in units of
`2^-1074`, the least positive one, and `nearest` rounds a quotient of such units to a code, ties to
the even code. Products and quotients are the exact ones, rounded once.
-/

namespace Webhook

/-- The code of infinity, `2047 * 2 ^ 52`, one above that of the greatest finite magnitude. -/
def Binary64.infinity : Nat := 9218868437227405312

/-- A finite double-precision number: its sign, and the code of its magnitude. -/
structure Binary64 where
  /-- Whether the sign bit is set; zero has both signs. -/
  negative : Bool
  /-- The code of the magnitude. -/
  code : Nat
  /-- The code is below that of infinity. -/
  finite : code < Binary64.infinity
  deriving DecidableEq

namespace Binary64

/-- The number of codes with one exponent, `2 ^ 52`. -/
def binade : Nat := 4503599627370496

/-- The magnitude of a code, in units of `2^-1074`. -/
def units (code : Nat) : Nat :=
  if code < binade then code
  else (binade + code % binade) * Nat.pow 2 (code / binade - 1)

/-- The natural number nearest to a quotient, and the even one of two that are equally near. -/
def roundHalfEven (num den : Nat) : Nat :=
  let q := num / den
  let r := num % den
  if 2 * r < den ∨ (2 * r = den ∧ q % 2 = 0) then q else q + 1

/-- The code nearest to `num / den` units; codes from `infinity` on stand for an overflow. -/
def nearest (num den : Nat) : Nat :=
  let e := Nat.log2 (num / den) - 52
  e * binade + roundHalfEven num (den * Nat.pow 2 e)

/-- The code nearest to a natural number. -/
def ofNat (n : Nat) : Nat := nearest (n * Nat.pow 2 1074) 1

/-- The code of the rounded product of two magnitudes. -/
def mul (a b : Nat) : Nat := nearest (units a * units b) (Nat.pow 2 1074)

/-- The code of the rounded quotient of two magnitudes. -/
def div (a b : Nat) : Nat := nearest (units a * Nat.pow 2 1074) (units b)

/-- The number with a sign and a code, unless the code stands for an overflow. -/
def ofCode? (negative : Bool) (code : Nat) : Option Binary64 :=
  if h : code < infinity then some ⟨negative, code, h⟩ else none

/-- Zero, with a sign. -/
def zero (negative : Bool) : Binary64 := ⟨negative, 0, by decide⟩

end Binary64

end Webhook
