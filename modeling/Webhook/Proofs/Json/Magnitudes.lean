import Mathlib.Tactic.Ring
import Webhook.Proofs.Json.Numerals
import Webhook.Proofs.Number.Shortest

/-!
# Printed numbers tell numbers apart

The magnitude of a numeral is the number that its digits stand for. Whatever form a decimal is
printed in, the magnitude of its numeral is the decimal's value (`magnitude_decimalNumeral`). So
the text of a double-precision number rounds to its code, and equal texts are those of equal numbers
(`floatNumeral_injective`); as a number keeps its kind, this is so of all numbers
(`Number.numeral_injective`).
-/

namespace Webhook.Json

/-- The number that the digits and the exponent of a numeral stand for. -/
def Numeral.magnitude (n : Numeral) : ℚ :=
  Nat.ofDigitChars 10 (n.whole ++ n.fraction.getD []) 0 *
    10 ^ ((n.exponent.map Exponent.toInt).getD 0 - (n.fraction.getD []).length)

/-- The exponent that the printer writes is the one meant. -/
theorem toInt_printed (i : Int) : Exponent.toInt ⟨i < 0, printNat i.natAbs⟩ = i := by
  have hdigits : Nat.ofDigitChars 10 (printNat i.natAbs) 0 = i.natAbs :=
    Nat.ofDigitChars_ten_toDigits
  unfold Exponent.toInt
  rw [hdigits]
  by_cases h : i < 0
  · rw [if_pos (decide_eq_true h)]
    omega
  · rw [if_neg (by simpa using h)]
    omega

section Forms

variable {negative : Bool} {ds : List Char}

/-- Written with a point among its digits, a numeral has the value of the digits, scaled by where
the point is. -/
theorem magnitude_positionalNumeral (point : Int) :
    (positionalNumeral negative ds point).magnitude =
      Nat.ofDigitChars 10 ds 0 * 10 ^ (point - ds.length) := by
  unfold positionalNumeral Numeral.magnitude
  split
  next hpoint =>
    -- all digits stand after the point, with zeros between
    have hdigits : Nat.ofDigitChars 10 (['0'] ++ (List.replicate (-point).toNat '0' ++ ds)) 0 =
        Nat.ofDigitChars 10 ds 0 := by
      rw [← List.append_assoc, ← List.replicate_one, List.replicate_append_replicate,
        Nat.ofDigitChars_append, Nat.ofDigitChars_replicate_zero, Nat.mul_zero]
    simp only [Option.getD_some, Option.map_none, Option.getD_none, hdigits, List.length_append,
      List.length_replicate]
    congr 2
    push_cast
    omega
  next hpoint =>
    split
    next hlength =>
      -- all digits stand before the point, which one more zero follows
      obtain ⟨n, hn⟩ : ∃ n : Nat, point - ds.length = n :=
        ⟨_, (Int.toNat_of_nonneg (by omega)).symm⟩
      have hzeros : point.toNat - ds.length = n := by omega
      have hdigits : Nat.ofDigitChars 10 (ds ++ List.replicate n '0' ++ ['0']) 0 =
          10 ^ (n + 1) * Nat.ofDigitChars 10 ds 0 := by
        rw [List.append_assoc, ← List.replicate_succ', Nat.ofDigitChars_append,
          Nat.ofDigitChars_replicate_zero]
      have hpow : (10 : ℚ) ^ (n + 1) * 10 ^ (0 - 1 : ℤ) = 10 ^ n := by
        rw [pow_succ, mul_assoc]
        norm_num
      simp only [Option.getD_some, Option.map_none, Option.getD_none, hzeros, hdigits, hn]
      calc ((10 ^ (n + 1) * Nat.ofDigitChars 10 ds 0 : Nat) : ℚ) * 10 ^ (0 - 1 : ℤ)
          = Nat.ofDigitChars 10 ds 0 * (10 ^ (n + 1) * 10 ^ (0 - 1 : ℤ)) := by
            push_cast
            ring
        _ = Nat.ofDigitChars 10 ds 0 * 10 ^ (n : ℤ) := by rw [hpow, zpow_natCast]
    next hlength =>
      simp only [Option.getD_some, Option.map_none, Option.getD_none, List.take_append_drop,
        List.length_drop]
      congr 2
      omega

/-- Written with an exponent, a numeral has the same value. -/
theorem magnitude_scientificNumeral (hne : ds ≠ []) (exponent : Int) :
    (scientificNumeral negative ds exponent).magnitude =
      Nat.ofDigitChars 10 ds 0 * 10 ^ (exponent + 1 - ds.length) := by
  have hlength : 0 < ds.length := List.length_pos_of_ne_nil hne
  -- the digits after the first are the fraction, if there are any
  have hfraction : (if ds.length ≤ 1 then none else some (ds.drop 1)).getD [] = ds.drop 1 := by
    split
    next h => exact (List.drop_eq_nil_of_le h).symm
    · rfl
  unfold scientificNumeral Numeral.magnitude
  rw [hfraction, List.take_append_drop, Option.map_some, Option.getD_some, toInt_printed,
    List.length_drop]
  congr 2
  omega

/-- The numeral of a decimal has the decimal's value. -/
theorem magnitude_decimalNumeral (negative : Bool) (d : Decimal) :
    (decimalNumeral negative d).magnitude = d.value := by
  have hdigits : Nat.ofDigitChars 10 (printNat d.digits) 0 = d.digits :=
    Nat.ofDigitChars_ten_toDigits
  unfold decimalNumeral
  -- zero has no digits of its own; otherwise the point is among them, or an exponent is written
  split
  next hzero =>
    rw [Decimal.value, hzero, Nat.cast_zero, zero_mul]
    exact mul_eq_zero_of_left rfl _
  · dsimp only
    split
    · rw [magnitude_positionalNumeral, hdigits, Decimal.value, add_sub_cancel_left]
    · rw [magnitude_scientificNumeral (isDigits_printNat _).ne_nil, hdigits, Decimal.value,
        sub_add_cancel, add_sub_cancel_left]

/-- The sign of a decimal is that of its numeral. -/
theorem negative_decimalNumeral (negative : Bool) (d : Decimal) :
    (decimalNumeral negative d).negative = negative := by
  unfold decimalNumeral positionalNumeral scientificNumeral
  dsimp only
  repeat' split
  all_goals rfl

end Forms

/-! ## Double-precision numbers -/

/-- What a number is written as rounds to its code. -/
theorem roundsTo_floatNumeral (x : Binary64) :
    Binary64.RoundsTo x.code (floatNumeral x).magnitude := by
  rw [floatNumeral, magnitude_decimalNumeral, floatDecimal]
  split
  next hzero =>
    rw [hzero, Decimal.value, Nat.cast_zero, zero_mul]
    exact Binary64.roundsTo_zero
  · exact Binary64.roundsTo_shortest x.code

/-- Numbers with equal texts are equal. -/
theorem floatNumeral_injective : Function.Injective floatNumeral := by
  intro x y h
  have hnegative : x.negative = y.negative := by
    rw [← negative_decimalNumeral x.negative (floatDecimal x),
      ← negative_decimalNumeral y.negative (floatDecimal y)]
    exact congrArg Numeral.negative h
  -- both round to the same numeral, which rounds to one code only
  have hcode : x.code = y.code := by
    have hx := roundsTo_floatNumeral x
    rw [h] at hx
    exact hx.unique (roundsTo_floatNumeral y)
  obtain ⟨xn, xc, xf⟩ := x
  obtain ⟨yn, yc, yf⟩ := y
  obtain rfl : xn = yn := hnegative
  obtain rfl : xc = yc := hcode
  rfl

/-- Numbers with equal texts are equal, integers and double-precision numbers among them. -/
theorem Number.numeral_injective : Function.Injective Number.numeral := by
  -- only integers are written without fraction and exponent
  have hkind : ∀ (i : Integer) (x : Binary64), intNumeral i.val ≠ floatNumeral x := by
    intro i x h
    have hinteger := isInteger_floatNumeral x
    rw [← h] at hinteger
    cases hinteger
  intro m n h
  cases m with
  | integer i =>
    cases n with
    | integer j =>
      have hread := ofNumeral?_intNumeral i
      rw [show intNumeral i.val = intNumeral j.val from h, ofNumeral?_intNumeral j] at hread
      exact (Option.some.inj hread).symm
    | float y => exact absurd h (hkind i y)
  | float x =>
    cases n with
    | integer j => exact absurd h.symm (hkind j x)
    | float y => exact congrArg Number.float (floatNumeral_injective h)

end Webhook.Json
