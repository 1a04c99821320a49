import Mathlib.Algebra.Order.Field.Power
import Mathlib.Algebra.Order.Field.Rat
import Mathlib.Tactic.FieldSimp
import Mathlib.Tactic.Positivity
import Webhook.Number.Shortest

/-!
# Shortest decimals tell magnitudes apart

The magnitudes of codes increase with the codes (`units_strictMono`), so that the decimals that
belong to a code lie between those of the code before it and those of the next one. Two neighbours
share the point half way between them, which belongs to the even one alone: a number rounds to one
code at most (`RoundsTo.unique`). The shortest decimal of a code rounds to that code
(`roundsTo_shortest`), so that magnitudes with equal shortest decimals are equal.
-/

namespace Webhook

/-- The number that a decimal stands for. -/
def Decimal.value (d : Decimal) : ℚ := d.digits * 10 ^ d.exponent

namespace Binary64

/-! ## Magnitudes -/

/-- The next code has the next magnitude, over the end of a binade too. -/
theorem units_lt_succ (code : Nat) : units code < units (code + 1) := by
  have hbinade : 0 < binade := by decide
  have hdiv := Nat.div_add_mod code binade
  have hmod := Nat.mod_lt code hbinade
  unfold units
  -- in the first binade codes are magnitudes
  by_cases hlow : code + 1 < binade
  · rw [if_pos (by omega), if_pos hlow]
    exact Nat.lt_succ_self code
  rw [if_neg hlow]
  by_cases hfirst : code < binade
  · -- the second binade begins, with the same unit
    have hcode : code + 1 = binade := by omega
    rw [if_pos hfirst, hcode, Nat.mod_self, Nat.div_self hbinade]
    simpa [hcode] using Nat.lt_of_succ_le (Nat.le_of_eq hcode)
  rw [if_neg hfirst]
  -- the exponent of a code that is not in the first binade
  obtain ⟨q, hq⟩ : ∃ q, code / binade = q + 1 :=
    Nat.exists_eq_succ_of_ne_zero (Nat.div_pos (Nat.le_of_not_lt hfirst) hbinade).ne'
  have hpow : 0 < Nat.pow 2 q := Nat.pow_pos (by decide)
  by_cases hlast : code % binade + 1 < binade
  · -- the significand grows by one
    have hmod' : (code + 1) % binade = code % binade + 1 := by
      rw [Nat.add_mod, Nat.mod_eq_of_lt (by decide : 1 < binade), Nat.mod_eq_of_lt hlast]
    have hdiv' : (code + 1) / binade = q + 1 := by
      rw [← hq, Nat.succ_div_of_mod_ne_zero]
      rw [hmod']
      exact Nat.succ_ne_zero _
    rw [hmod', hdiv', hq, Nat.add_sub_cancel]
    exact Nat.mul_lt_mul_of_pos_right (by omega) hpow
  · -- the next binade begins: the significand halves, and its unit doubles
    have hmod' : (code + 1) % binade = 0 := by
      have hend : code % binade + 1 = binade := by omega
      rw [Nat.add_mod, Nat.mod_eq_of_lt (by decide : 1 < binade), hend, Nat.mod_self]
    have hdiv' : (code + 1) / binade = q + 2 := by
      rw [Nat.succ_div_of_mod_eq_zero hmod', hq]
    have hsucc : Nat.pow 2 (q + 1) = 2 * Nat.pow 2 q := Nat.pow_succ'
    rw [hmod', hdiv', hq, Nat.add_sub_cancel, show q + 2 - 1 = q + 1 from rfl, hsucc,
      Nat.add_zero, ← Nat.mul_assoc]
    exact Nat.mul_lt_mul_of_pos_right (by omega) hpow

/-- Greater codes stand for greater numbers. -/
theorem units_strictMono : StrictMono units := strictMono_nat_of_lt_succ units_lt_succ

/-! ## Rounding -/

/-- How many half units make one. -/
def halfUnits : Nat := Nat.pow 2 1075

/-- A number lies no further from the magnitude of a code than half way to its neighbours, the ends
included for an even code. -/
def RoundsTo (code : Nat) (r : ℚ) : Prop :=
  if code % 2 = 0 then lowerEnd code ≤ r * halfUnits ∧ r * halfUnits ≤ upperEnd code
  else lowerEnd code < r * halfUnits ∧ r * halfUnits < upperEnd code

variable {code code' : Nat} {r : ℚ}

/-- A number that rounds to a code is between the ends of its range. -/
theorem RoundsTo.le (h : RoundsTo code r) :
    lowerEnd code ≤ r * halfUnits ∧ r * halfUnits ≤ upperEnd code := by
  unfold RoundsTo at h
  split at h
  · exact h
  · exact ⟨h.1.le, h.2.le⟩

/-- The upper end of a code is not above the lower end of a greater one. -/
theorem upperEnd_le_lowerEnd (h : code < code') : upperEnd code ≤ lowerEnd code' := by
  have hlow : units code ≤ units (code' - 1) := units_strictMono.monotone (by omega)
  have hhigh : units (code + 1) ≤ units code' := units_strictMono.monotone h
  exact Nat.add_le_add hlow hhigh

/-- The two ends are the same for neighbours only. -/
theorem upperEnd_lt_lowerEnd (h : code + 1 < code') : upperEnd code < lowerEnd code' := by
  have hlow : units code < units (code' - 1) := units_strictMono (by omega)
  have hhigh : units (code + 1) < units code' := units_strictMono h
  exact Nat.add_lt_add hlow hhigh

/-- No number rounds to two codes of which one is greater. -/
theorem RoundsTo.not_lt (h : RoundsTo code r) (h' : RoundsTo code' r) : ¬ code < code' := by
  intro hlt
  have hends : (upperEnd code : ℚ) ≤ lowerEnd code' := by
    exact_mod_cast upperEnd_le_lowerEnd hlt
  have hmeet : upperEnd code = lowerEnd code' := by
    exact_mod_cast hends.antisymm (h'.le.1.trans h.le.2)
  -- neighbours meet half way, and one of them is odd
  have hnext : code' = code + 1 := by
    by_contra hne
    exact absurd hmeet (upperEnd_lt_lowerEnd (by omega)).ne
  unfold RoundsTo at h h'
  rw [← hmeet] at h'
  by_cases heven : code % 2 = 0
  · rw [if_pos heven] at h
    rw [if_neg (by omega)] at h'
    exact absurd h.2 (not_le.2 h'.1)
  · rw [if_neg heven] at h
    rw [if_pos (by omega)] at h'
    exact absurd h'.1 (not_le.2 h.2)

/-- A number rounds to one code at most. -/
theorem RoundsTo.unique (h : RoundsTo code r) (h' : RoundsTo code' r) : code = code' :=
  Nat.le_antisymm (Nat.le_of_not_lt (h'.not_lt h)) (Nat.le_of_not_lt (h.not_lt h'))

/-! ## Decimals that belong to a code -/

/-- The denominator of a power of ten is not zero. -/
theorem tenDen_pos (k : Int) : 0 < tenDen k := Nat.pow_pos (by decide)

/-- A power of ten is a quotient of natural numbers. -/
theorem ten_zpow (k : Int) : (10 : ℚ) ^ k = tenNum k / tenDen k := by
  unfold tenNum tenDen
  rcases Int.le_total 0 k with hk | hk
  · obtain ⟨n, rfl⟩ := Int.eq_ofNat_of_zero_le hk
    simp
  · obtain ⟨n, hn⟩ := Int.eq_ofNat_of_zero_le (Int.neg_nonneg_of_nonpos hk)
    obtain rfl : k = -(n : Int) := by omega
    simp

/-- A decimal that belongs to a code rounds to it. -/
theorem roundsTo_of_belongs {d : Nat} {k : Int} (h : belongs code d k = true) :
    RoundsTo code (Decimal.value ⟨d, k⟩) := by
  have hden : (0 : ℚ) < tenDen k := by exact_mod_cast tenDen_pos k
  have hscaled (n : Nat) : Decimal.value ⟨d, k⟩ * n = (d * tenNum k * n : Nat) / tenDen k := by
    rw [Decimal.value, ten_zpow, Nat.cast_mul, Nat.cast_mul, mul_div_assoc', div_mul_eq_mul_div]
  -- over the common denominator, both sides compare natural numbers
  unfold belongs at h
  unfold RoundsTo halfUnits
  rw [hscaled, le_div_iff₀ hden, div_le_iff₀ hden, lt_div_iff₀ hden, div_lt_iff₀ hden]
  split at h
  next heven =>
    rw [Bool.and_eq_true, decide_eq_true_eq, decide_eq_true_eq] at h
    rw [if_pos heven]
    exact ⟨by exact_mod_cast h.1, by exact_mod_cast h.2⟩
  next hodd =>
    rw [Bool.and_eq_true, decide_eq_true_eq, decide_eq_true_eq] at h
    rw [if_neg hodd]
    exact ⟨by exact_mod_cast h.1, by exact_mod_cast h.2⟩

/-- A decimal that is found on a grid of powers of ten rounds to the code. -/
theorem roundsTo_of_onGrid? {k : Int} {d : Decimal} (h : onGrid? code k = some d) :
    RoundsTo code d.value := by
  rw [onGrid?] at h
  -- one of the two neighbours on the grid belongs to the code
  generalize roundHalfEven _ _ = near at h
  generalize (if near = _ then _ else _) = far at h
  split at h
  next hnear =>
    obtain rfl := Option.some.inj h
    exact roundsTo_of_belongs hnear
  · split at h
    next hfar =>
      obtain rfl := Option.some.inj h
      exact roundsTo_of_belongs hfar
    · cases h

/-- What the search finds rounds to the code. -/
theorem roundsTo_of_search {fuel : Nat} {k : Int} {d : Decimal}
    (h : search code fuel k = some d) : RoundsTo code d.value := by
  induction fuel generalizing k with
  | zero => cases h
  | succ fuel ih =>
    rw [search, Option.or_eq_some_iff] at h
    rcases h with h | ⟨-, h⟩
    · exact roundsTo_of_onGrid? h
    · exact ih h

/-- A power of five as digits makes up for the tens below the point but for the twos. -/
theorem value_mul_two_pow (m n : Nat) :
    Decimal.value ⟨m * Nat.pow 5 n, -(n : Int)⟩ * (Nat.pow 2 (n + 1) : Nat) = 2 * (m : ℚ) := by
  have hfive : ((Nat.pow 5 n : Nat) : ℚ) = 5 ^ n := Nat.cast_pow 5 n
  have htwo : ((Nat.pow 2 (n + 1) : Nat) : ℚ) = 2 ^ (n + 1) := Nat.cast_pow 2 (n + 1)
  have hten : (10 : ℚ) ^ n = 5 ^ n * 2 ^ n := by
    rw [← mul_pow]
    norm_num
  rw [Decimal.value, Nat.cast_mul, hfive, htwo, zpow_neg, zpow_natCast, hten, pow_succ]
  field_simp

/-- The exact decimal of a magnitude, in half units. -/
theorem value_exact (code : Nat) : (exact code).value * halfUnits = 2 * (units code : ℚ) := by
  have h := value_mul_two_pow (units code)
  unfold exact halfUnits
  -- the exponent as a variable, so that no power of it is worked out
  generalize he : (-1074 : Int) = e
  obtain ⟨n, hn⟩ : ∃ n : Nat, n = 1074 := ⟨_, rfl⟩
  rw [← hn, show 1075 = n + 1 by omega, show e = -n by omega]
  exact h n

/-- The exact decimal of a code rounds to it. -/
theorem roundsTo_exact (code : Nat) : RoundsTo code (exact code).value := by
  have hlow : lowerEnd code ≤ 2 * units code := by
    have := units_strictMono.monotone (Nat.sub_le code 1)
    unfold lowerEnd
    omega
  have hhigh : 2 * units code < upperEnd code := by
    have := units_lt_succ code
    unfold upperEnd
    omega
  unfold RoundsTo
  rw [value_exact]
  -- the ends belong to the range of an even code, and not to that of an odd one
  split
  · exact ⟨by exact_mod_cast hlow, by exact_mod_cast hhigh.le⟩
  next hodd =>
    have hstrict : lowerEnd code < 2 * units code := by
      have : units (code - 1) < units code := units_strictMono (by omega)
      unfold lowerEnd
      omega
    exact ⟨by exact_mod_cast hstrict, by exact_mod_cast hhigh⟩

/-- Zero rounds to the code of zero. -/
theorem roundsTo_zero : RoundsTo 0 0 := by
  have hlow : lowerEnd 0 = 0 := rfl
  unfold RoundsTo
  rw [if_pos (by decide), hlow, zero_mul]
  exact ⟨Nat.cast_zero.le, Nat.cast_nonneg _⟩

/-- The shortest decimal of a code rounds to the code. -/
theorem roundsTo_shortest (code : Nat) : RoundsTo code (shortest code).value := by
  unfold shortest
  cases h : search code 24 (ceilingPower code) with
  | none => exact roundsTo_exact code
  | some d => exact roundsTo_of_search h

end Binary64

end Webhook
