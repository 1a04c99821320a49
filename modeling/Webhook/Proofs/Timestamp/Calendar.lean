import Mathlib.Algebra.BigOperators.Intervals
import Mathlib.Algebra.Order.BigOperators.Group.Finset
import Webhook.Timestamp.Calendar

/-!
# Days in a row

The days of the calendar stand in a row: `Date.number` counts them through months and years, `next`
and `prev` move by one, and a day is told by its number (`Date.number_injective`).
-/

namespace Webhook

/-- The number of days before a year, up to a constant: a year has 365 days, and one more for each
leap year before it. -/
def daysBeforeYear (year : Int) : Int :=
  365 * year + (year - 1) / 4 - (year - 1) / 100 + (year - 1) / 400

/-- The number of days of a year before a month. -/
def daysBeforeMonth (year : Int) (month : Nat) : Nat :=
  ∑ m ∈ Finset.Ico 1 month, daysInMonth year m

/-- The number of days of a year. -/
def daysInYear (year : Int) : Nat := if isLeapYear year then 366 else 365

/-- A year begins when the one before it has passed. -/
theorem daysBeforeYear_succ (year : Int) :
    daysBeforeYear (year + 1) = daysBeforeYear year + daysInYear year := by
  simp only [daysBeforeYear, daysInYear, isLeapYear, Bool.and_eq_true, Bool.or_eq_true, beq_iff_eq,
    bne_iff_ne]
  split <;> omega

/-- A later year has no fewer days before it. -/
theorem daysBeforeYear_mono {year year' : Int} (h : year ≤ year') :
    daysBeforeYear year ≤ daysBeforeYear year' := by
  obtain rfl | h : year = year' ∨ year < year' := by omega
  · exact Int.le_refl _
  · -- the days of a year outweigh what the divisions may lose
    simp only [daysBeforeYear]
    omega

/-- A month begins when the one before it has passed. -/
theorem daysBeforeMonth_succ (year : Int) {month : Nat} (h : 1 ≤ month) :
    daysBeforeMonth year (month + 1) = daysBeforeMonth year month + daysInMonth year month :=
  Finset.sum_Ico_succ_top h _

/-- Later months begin later. -/
theorem daysBeforeMonth_mono (year : Int) {month month' : Nat} (h : month ≤ month') :
    daysBeforeMonth year month ≤ daysBeforeMonth year month' :=
  Finset.sum_le_sum_of_subset (Finset.Ico_subset_Ico_right h)

/-- The months of a year have all its days. -/
theorem daysBeforeMonth_thirteen (year : Int) : daysBeforeMonth year 13 = daysInYear year := by
  rw [daysBeforeMonth, daysInYear, Finset.sum_Ico_eq_sum_range]
  simp only [Finset.sum_range_succ, Finset.sum_range_zero, daysInMonth]
  cases isLeapYear year <;> rfl

namespace Date

/-- The place of a day in the row of all days. -/
def number (d : Date) : Int := daysBeforeYear d.year + daysBeforeMonth d.year d.month + d.day

/-- The next date has the next number. -/
theorem number_next (d : Date) : d.next.number = d.number + 1 := by
  obtain ⟨hmonth, hmonth'⟩ := d.month_valid
  obtain ⟨hday, hday'⟩ := d.day_valid
  have hmonths := daysBeforeMonth_succ d.year hmonth
  simp only [next]
  split
  next h =>
    simp only [number]
    omega
  next h =>
    split
    next =>
      simp only [number]
      omega
    next h' =>
      -- the last day of a year
      have hyear := daysBeforeYear_succ d.year
      have htwelve : d.month + 1 = 13 := by omega
      rw [htwelve, daysBeforeMonth_thirteen] at hmonths
      have hjanuary : daysBeforeMonth (d.year + 1) 1 = 0 := rfl
      simp only [number, hjanuary]
      omega

/-- The previous date has the previous number. -/
theorem number_prev (d : Date) : d.prev.number = d.number - 1 := by
  obtain ⟨hmonth, hmonth'⟩ := d.month_valid
  obtain ⟨hday, hday'⟩ := d.day_valid
  simp only [prev]
  split
  next h =>
    simp only [number]
    omega
  next h =>
    split
    next h' =>
      have hmonths := daysBeforeMonth_succ d.year (show 1 ≤ d.month - 1 by omega)
      rw [Nat.sub_add_cancel hmonth] at hmonths
      simp only [number]
      omega
    next h' =>
      -- the first day of a year
      have hyear := daysBeforeYear_succ (d.year - 1)
      rw [Int.sub_add_cancel] at hyear
      have hmonths := daysBeforeMonth_succ (d.year - 1) (show 1 ≤ 12 by decide)
      rw [daysBeforeMonth_thirteen] at hmonths
      have hdecember : daysInMonth (d.year - 1) 12 = 31 := rfl
      have hjanuary : daysBeforeMonth d.year 1 = 0 := rfl
      have hone : d.month = 1 := by omega
      simp only [number, hone, hjanuary]
      omega

/-- A date of a later year has a greater number. -/
theorem number_lt_of_year_lt {d d' : Date} (h : d.year < d'.year) : d.number < d'.number := by
  obtain ⟨hmonth, hmonth'⟩ := d.month_valid
  have hmonths := daysBeforeMonth_succ d.year hmonth
  -- the whole year of the one is before the other
  have hrest := daysBeforeMonth_mono d.year (show d.month + 1 ≤ 13 by omega)
  rw [daysBeforeMonth_thirteen] at hrest
  have hyear := daysBeforeYear_succ d.year
  have hyears := daysBeforeYear_mono (show d.year + 1 ≤ d'.year from h)
  have hday := d.day_valid.2
  have hday' := d'.day_valid.1
  simp only [number]
  omega

/-- A date of a later month of the same year has a greater number. -/
theorem number_lt_of_month_lt {d d' : Date} (hyear : d.year = d'.year) (h : d.month < d'.month) :
    d.number < d'.number := by
  -- the whole month of the one is before the other
  have hmonths := daysBeforeMonth_succ d.year d.month_valid.1
  have hrest := daysBeforeMonth_mono d.year (show d.month + 1 ≤ d'.month from h)
  have hday := d.day_valid.2
  have hday' := d'.day_valid.1
  simp only [number, ← hyear]
  omega

/-- A day is told by its place in the row. -/
theorem number_injective : Function.Injective number := by
  intro d d' h
  -- a date of another year would have another number, and so would one of another month
  have hyear : d.year = d'.year := by
    rcases Int.lt_trichotomy d.year d'.year with hlt | heq | hlt
    · exact absurd h (Int.ne_of_lt (number_lt_of_year_lt hlt))
    · exact heq
    · exact absurd h.symm (Int.ne_of_lt (number_lt_of_year_lt hlt))
  have hmonth : d.month = d'.month := by
    rcases Nat.lt_trichotomy d.month d'.month with hlt | heq | hlt
    · exact absurd h (Int.ne_of_lt (number_lt_of_month_lt hyear hlt))
    · exact heq
    · exact absurd h.symm (Int.ne_of_lt (number_lt_of_month_lt hyear.symm hlt))
  simp only [number, hyear, hmonth] at h
  obtain ⟨year, month, day, hmonths, hdays⟩ := d
  obtain ⟨year', month', day', hmonths', hdays'⟩ := d'
  obtain rfl : year = year' := hyear
  obtain rfl : month = month' := hmonth
  obtain rfl : day = day' := by dsimp only at h; omega
  rfl

end Date

end Webhook
