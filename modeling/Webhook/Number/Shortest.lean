import Webhook.Number.Binary64

/-!
# Shortest decimals

The decimal with the fewest digits among those that a double-precision magnitude is the nearest one
to. A decimal belongs to the magnitude of a code when it lies no further than half way to the
neighbouring magnitudes, the half-way points included for an even code. The search goes from coarse
decimal grids to fine ones and stops at the first grid with such a decimal; on a grid only the two
neighbours of the magnitude can be candidates, and the nearer one is taken. Lengths are in half
units, that is in units of `2^-1075`.
-/

namespace Webhook

/-- The number `digits * 10 ^ exponent`. -/
structure Decimal where
  /-- The digits, as one natural number. -/
  digits : Nat
  /-- The power of ten that the last digit counts. -/
  exponent : Int
  deriving DecidableEq

namespace Binary64

/-- The lower end of the decimals that belong to a code, in half units. -/
def lowerEnd (code : Nat) : Nat := units (code - 1) + units code

/-- The upper end of the decimals that belong to a code, in half units. -/
def upperEnd (code : Nat) : Nat := units code + units (code + 1)

/-- The numerator of `10 ^ k`. -/
def tenNum (k : Int) : Nat := Nat.pow 10 k.toNat

/-- The denominator of `10 ^ k`. -/
def tenDen (k : Int) : Nat := Nat.pow 10 (-k).toNat

/-- Whether `d * 10 ^ k` belongs to a code. -/
def belongs (code : Nat) (d : Nat) (k : Int) : Bool :=
  let point := d * tenNum k * Nat.pow 2 1075
  let low := lowerEnd code * tenDen k
  let high := upperEnd code * tenDen k
  if code % 2 = 0 then low ≤ point && point ≤ high else low < point && point < high

/-- The decimal on the grid of multiples of `10 ^ k` that belongs to a code and is nearest to its
magnitude; the one with even digits of two that are equally near. -/
def onGrid? (code : Nat) (k : Int) : Option Decimal :=
  let num := 2 * units code * tenDen k
  let den := tenNum k * Nat.pow 2 1075
  let below := num / den
  let near := roundHalfEven num den
  -- the other neighbour of the magnitude on this grid
  let far := if near = below then below + 1 else below
  if belongs code near k then some ⟨near, k⟩
  else if belongs code far k then some ⟨far, k⟩
  else none

/-- The first of the grids `k`, `k - 1`, … with a decimal that belongs to a code. -/
def search (code : Nat) : Nat → Int → Option Decimal
  | 0, _ => none
  | fuel + 1, k => (onGrid? code k).or (search code fuel (k - 1))

/-- The exact decimal of a magnitude. -/
def exact (code : Nat) : Decimal := ⟨units code * Nat.pow 5 1074, -1074⟩

/-- A power of ten that is above the magnitude of a code, by less than a factor of 1000. -/
def ceilingPower (code : Nat) : Int :=
  ((Nat.log2 (units code) : Int) - 1073) * 30103 / 100000 + 1

/-- The shortest decimal that belongs to a code. A grid at most nineteen places below the magnitude
has one, so the exact decimal is not needed; it keeps the definition correct without that fact. -/
def shortest (code : Nat) : Decimal :=
  (search code 24 (ceilingPower code)).getD (exact code)

end Binary64

end Webhook
