import Mathlib.Algebra.Group.Nat.Defs
import Webhook.Proofs.Text.Digits
import Webhook.Timestamp.Text

/-!
# Timestamps read back

A timestamp is written with milliseconds, so that what is read back is the timestamp cut to whole
milliseconds (`ofText?_toText`). A year that takes a sign is not read back at all, but it is told
from every other year by its text, so that texts tell timestamps apart up to what is below a
millisecond (`truncate_eq_of_toText_eq`). Each part of the text is a number of fixed width, and
`digits?_padded` reads one of them, whatever follows.
-/

namespace Webhook.Timestamp

/-! ## Numbers of fixed width -/

variable {w n : Nat}

/-- A padded number consists of digits. -/
theorem isDigit_of_mem_padded {c : Char} (hc : c ∈ padded w n) : c.isDigit = true := by
  rcases List.mem_append.1 hc with hc | hc
  · exact Text.isDigit_of_mem_zeros hc
  · exact Nat.isDigit_of_mem_toDigits (by decide) (by decide) hc

/-- A number that fits is padded to the width. -/
theorem length_padded (hw : 0 < w) (h : n < 10 ^ w) :
    (padded w n).length = w := by
  have hlength := (Nat.length_toDigits_le_iff (by decide) hw).2 h
  simp only [padded, List.length_append, List.length_replicate]
  omega

/-- The zeros in front do not count. -/
theorem ofDigitChars_padded (w n : Nat) : Nat.ofDigitChars 10 (padded w n) 0 = n := by
  rw [padded, Nat.ofDigitChars_append, Nat.ofDigitChars_replicate_zero, Nat.mul_zero,
    Nat.ofDigitChars_ten_toDigits]

/-- A number that fits its width is read back, whatever follows it. -/
theorem digits?_padded (hw : 0 < w) (h : n < 10 ^ w) (rest : List Char) :
    digits? w (padded w n ++ rest) = some (n, rest) := by
  have hlength := length_padded hw h
  have hall : (padded w n).all Char.isDigit = true :=
    List.all_eq_true.2 fun _ hc => isDigit_of_mem_padded hc
  have hnumber : number? (padded w n) = some n := by
    rw [number?, if_pos hall, ofDigitChars_padded]
  unfold digits?
  rw [List.take_left' hlength, List.drop_left' hlength, if_neg (by omega), hnumber]
  rfl

/-- A sign is no digit. -/
theorem digits?_eq_none {c : Char} (hc : c.isDigit = false) (cs : List Char) :
    digits? (w + 1) (c :: cs) = none := by
  have hnumber : number? (c :: cs.take w) = none := by
    simp [number?, hc]
  simp [digits?, List.take_succ_cons, hnumber]

/-- The fraction is cut to milliseconds. -/
theorem fraction?_padded (h : n < 1000) {rest : List Char} (hrest : Text.NoDigitFirst rest) :
    fraction? ('.' :: (padded 3 n ++ rest)) = some (n * 1000000, rest) := by
  have hlength : (padded 3 n).length = 3 := length_padded (by decide) h
  have hdigits : ∀ c ∈ padded 3 n, c.isDigit = true := fun _ hc => isDigit_of_mem_padded hc
  -- three digits are filled up to nine
  have hnine : (padded 3 n ++ List.replicate 9 '0').take 9 =
      padded 3 n ++ List.replicate 6 '0' := by
    rw [List.take_append, hlength, List.take_of_length_le (by omega), List.take_replicate]
    rfl
  -- so that they count milliseconds in nanoseconds
  have hvalue : Nat.ofDigitChars 10 (padded 3 n ++ List.replicate 6 '0') 0 = n * 1000000 := by
    rw [Nat.ofDigitChars_append, ofDigitChars_padded, Nat.ofDigitChars_replicate_zero,
      Nat.mul_comm]
  have hrun := Text.takeWhile_isDigit_append hdigits hrest
  obtain ⟨c, cs, hcons⟩ := List.exists_cons_of_length_eq_add_one hlength
  rw [hcons] at hrun hnine hvalue
  rw [fraction?, Text.dropWhile_isDigit_append hdigits hrest, hcons, hrun]
  exact congrArg some (Prod.ext (hnine ▸ hvalue) rfl)

/-- A mark that stands in front is passed. -/
theorem mark?_self (mark : Char) (cs : List Char) : mark? mark (mark :: cs) = some cs :=
  if_pos rfl

/-- The separator that is written is passed. -/
theorem separator?_cons (cs : List Char) : separator? ('T' :: cs) = some cs := by
  rw [separator?, if_pos (Or.inl rfl)]

/-! ## Timestamps -/

/-- The reading of a clock that shows UTC is the timestamp. -/
theorem ofReading?_zero (date : Date) {minute second nano : Nat} (hm : minute < 1440)
    (hs : second ≤ 60) (hn : nano < 1000000000) :
    ofReading? date minute second nano 0 = some ⟨date, minute, second, nano, hm, hs, hn⟩ := by
  unfold ofReading?
  rw [dif_pos (by simp [maxOffset]; omega)]
  dsimp only
  rw [dif_neg (by omega), dif_neg (by omega)]
  simp

/-- The numbers of a date give that date. -/
theorem ofNumbers?_self (d : Date) {y : Int} (h : y = d.year) :
    Date.ofNumbers? y d.month d.day = some d := by
  subst h
  exact dif_pos ⟨d.month_valid, d.day_valid⟩

/-- A day of a month has two digits. -/
theorem day_le (d : Date) : d.day ≤ 31 := by
  have hday := d.day_valid.2
  have hmonth : daysInMonth d.year d.month ≤ 31 := by
    unfold daysInMonth
    repeat' split
    all_goals decide
  omega

/-- A year that takes a sign is not read back. -/
theorem ofChars?_print_of_sign (t : Timestamp) (h : t.date.year < 0 ∨ 9999 < t.date.year) :
    ofChars? t.print = none := by
  have hsign : ∃ c rest, t.print = c :: rest ∧ c.isDigit = false := by
    by_cases hneg : t.date.year < 0
    · exact ⟨'-', _, by simp only [print, printYear, if_pos hneg, List.cons_append]; rfl, rfl⟩
    · exact ⟨'+', _, by
        simp only [print, printYear, if_neg hneg, if_pos (h.resolve_left hneg), List.cons_append]
        rfl, rfl⟩
  obtain ⟨c, rest, hprint, hc⟩ := hsign
  rw [hprint, ofChars?, digits?_eq_none hc]
  rfl

/-- A year of four digits is read back, to the millisecond. -/
theorem ofChars?_print_of_year (t : Timestamp) (h : 0 ≤ t.date.year ∧ t.date.year ≤ 9999) :
    ofChars? t.print = some t.truncate := by
  have hminute := t.minute_valid
  have hsecond := t.second_valid
  have hnano := t.nano_valid
  have hmonth := t.date.month_valid
  have hday := day_le t.date
  have hyear : printYear t.date.year = padded 4 t.date.year.natAbs := by
    rw [printYear, if_neg (by omega), if_neg (by omega)]
  have hend : Text.NoDigitFirst ['Z'] := by simp [Text.NoDigitFirst]
  have hoffset : offset? ['Z'] = some 0 := rfl
  -- each part, with what follows it
  have hyears := digits?_padded (w := 4) (n := t.date.year.natAbs) (by decide) (by omega)
  have hmonths := digits?_padded (w := 2) (n := t.date.month) (by decide) (by omega)
  have hdays := digits?_padded (w := 2) (n := t.date.day) (by decide) (by omega)
  have hhours := digits?_padded (w := 2) (n := t.minute / 60) (by decide) (by omega)
  have hminutes := digits?_padded (w := 2) (n := t.minute % 60) (by decide) (by omega)
  have hseconds := digits?_padded (w := 2) (n := t.second) (by decide) (by omega)
  have hfraction := fraction?_padded (n := t.nano / 1000000) (by omega) hend
  have hdate := ofNumbers?_self t.date (y := t.date.year.natAbs) (by omega)
  have hclock : ¬ ((decide (23 < t.minute / 60) || decide (59 < t.minute % 60)) = true) := by
    simp
    omega
  have htime : 60 * (t.minute / 60) + t.minute % 60 = t.minute := Nat.div_add_mod _ _
  have hprint : t.print = padded 4 t.date.year.natAbs ++ '-' :: (padded 2 t.date.month ++
      '-' :: (padded 2 t.date.day ++ 'T' :: (padded 2 (t.minute / 60) ++
      ':' :: (padded 2 (t.minute % 60) ++ ':' :: (padded 2 t.second ++
      '.' :: (padded 3 (t.nano / 1000000) ++ ['Z'])))))) := by
    simp only [print, hyear, List.append_assoc, List.cons_append]
  rw [hprint, ofChars?]
  refine Option.bind_eq_some_iff.2 ⟨_, hyears _, ?_⟩
  refine Option.bind_eq_some_iff.2 ⟨_, mark?_self _ _, ?_⟩
  refine Option.bind_eq_some_iff.2 ⟨_, hmonths _, ?_⟩
  refine Option.bind_eq_some_iff.2 ⟨_, mark?_self _ _, ?_⟩
  refine Option.bind_eq_some_iff.2 ⟨_, hdays _, ?_⟩
  refine Option.bind_eq_some_iff.2 ⟨_, separator?_cons _, ?_⟩
  refine Option.bind_eq_some_iff.2 ⟨_, hhours _, ?_⟩
  refine Option.bind_eq_some_iff.2 ⟨_, mark?_self _ _, ?_⟩
  refine Option.bind_eq_some_iff.2 ⟨_, hminutes _, ?_⟩
  refine Option.bind_eq_some_iff.2 ⟨_, mark?_self _ _, ?_⟩
  refine Option.bind_eq_some_iff.2 ⟨_, hseconds _, ?_⟩
  refine Option.bind_eq_some_iff.2 ⟨_, hfraction, ?_⟩
  refine Option.bind_eq_some_iff.2 ⟨_, hoffset, ?_⟩
  refine Option.bind_eq_some_iff.2 ⟨_, hdate, ?_⟩
  rw [if_neg hclock]
  simp only [htime]
  exact ofReading?_zero t.date hminute hsecond _

/-- What is read back is the timestamp cut to milliseconds, if its year has four digits. -/
theorem ofText?_toText (t : Timestamp) : ofText? t.toText =
    if 0 ≤ t.date.year ∧ t.date.year ≤ 9999 then some t.truncate else none := by
  rw [ofText?, toText, String.toList_ofList]
  split
  next h => exact ofChars?_print_of_year t h
  next h => exact ofChars?_print_of_sign t (by omega)

/-- A timestamp is cut to milliseconds exactly when it has none of its own below them. -/
theorem truncate_eq_self_iff (t : Timestamp) : t.truncate = t ↔ t.nano % 1000000 = 0 := by
  obtain ⟨date, minute, second, nano, hm, hs, hn⟩ := t
  simp only [truncate, mk.injEq, true_and]
  omega

/-! ## Texts tell timestamps apart -/

/-- Numbers that fit their width are equal where their digits are, and so is what follows. -/
theorem eq_of_padded_append {n' : Nat} {rest rest' : List Char} (hw : 0 < w) (h : n < 10 ^ w)
    (h' : n' < 10 ^ w) (heq : padded w n ++ rest = padded w n' ++ rest') :
    n = n' ∧ rest = rest' := by
  have hread := digits?_padded hw h rest
  rw [heq, digits?_padded hw h' rest'] at hread
  obtain ⟨hn, hrest⟩ := Prod.mk.inj (Option.some.inj hread)
  exact ⟨hn.symm, hrest.symm⟩

/-- Padded numbers of one width are different for different numbers. -/
theorem eq_of_padded {n' : Nat} (h : padded w n = padded w n') : n = n' := by
  rw [← ofDigitChars_padded w n, h, ofDigitChars_padded]

/-- No number begins with a sign. -/
theorem cons_ne_padded {c : Char} (hc : c.isDigit = false) (cs : List Char) :
    c :: cs ≠ padded w n := by
  intro h
  have hdigit := isDigit_of_mem_padded (h ▸ List.mem_cons_self : c ∈ padded w n)
  rw [hc] at hdigit
  cases hdigit

/-- Years with equal texts are equal. -/
theorem eq_of_printYear {y y' : Int} (h : printYear y = printYear y') : y = y' := by
  have hminus : ('-' : Char).isDigit = false := rfl
  have hplus : ('+' : Char).isDigit = false := rfl
  unfold printYear at h
  -- the sign tells years before 0 and after 9999 from the others
  split at h
  next hneg =>
    split at h
    next hneg' =>
      have habs := eq_of_padded (List.cons.inj h).2
      omega
    next =>
      split at h
      · exact absurd (List.cons.inj h).1 (by decide)
      · exact absurd h (cons_ne_padded hminus _)
  next hneg =>
    split at h
    next hlarge =>
      split at h
      · exact absurd (List.cons.inj h).1 (by decide)
      next hneg' =>
        split at h
        next hlarge' =>
          have habs := eq_of_padded (List.cons.inj h).2
          omega
        next => exact absurd h (cons_ne_padded hplus _)
    next hlarge =>
      split at h
      · exact absurd h.symm (cons_ne_padded hminus _)
      next hneg' =>
        split at h
        · exact absurd h.symm (cons_ne_padded hplus _)
        next hlarge' =>
          have habs := eq_of_padded h
          omega

/-- What is written after the year. -/
def printAfterYear (t : Timestamp) : List Char :=
  '-' :: (padded 2 t.date.month ++ '-' :: (padded 2 t.date.day ++
    'T' :: (padded 2 (t.minute / 60) ++ ':' :: (padded 2 (t.minute % 60) ++
    ':' :: (padded 2 t.second ++ '.' :: (padded 3 (t.nano / 1000000) ++ ['Z']))))))

/-- The text of a timestamp is the year and what comes after it. -/
theorem print_eq (t : Timestamp) : t.print = printYear t.date.year ++ t.printAfterYear := by
  simp only [print, printAfterYear, List.append_assoc, List.cons_append]

/-- What comes after the year always has the same length. -/
theorem length_printAfterYear (t : Timestamp) : t.printAfterYear.length = 20 := by
  have hmonth := t.date.month_valid
  have hday := day_le t.date
  have hminute := t.minute_valid
  have hsecond := t.second_valid
  have hnano := t.nano_valid
  have htwo : ∀ {n : Nat}, n < 100 → (padded 2 n).length = 2 := fun h => length_padded (by decide) h
  have hthree : (padded 3 (t.nano / 1000000)).length = 3 := length_padded (by decide) (by omega)
  simp only [printAfterYear, List.length_cons, List.length_append, List.length_nil, hthree,
    htwo (show t.date.month < 100 by omega), htwo (show t.date.day < 100 by omega),
    htwo (show t.minute / 60 < 100 by omega), htwo (show t.minute % 60 < 100 by omega),
    htwo (show t.second < 100 by omega)]

/-- Timestamps with equal texts agree to the millisecond, in whatever year they are. -/
theorem truncate_eq_of_toText_eq {t t' : Timestamp} (h : t.toText = t'.toText) :
    t.truncate = t'.truncate := by
  have hprint : t.print = t'.print := String.ofList_injective h
  rw [print_eq, print_eq] at hprint
  -- what follows the year has a fixed length
  obtain ⟨hyear, hafter⟩ := List.append_inj' hprint
    (t.length_printAfterYear.trans t'.length_printAfterYear.symm)
  have hmonth := t.date.month_valid
  have hmonth' := t'.date.month_valid
  have hday := day_le t.date
  have hday' := day_le t'.date
  have hminute := t.minute_valid
  have hminute' := t'.minute_valid
  have hsecond := t.second_valid
  have hsecond' := t'.second_valid
  have hnano := t.nano_valid
  have hnano' := t'.nano_valid
  obtain ⟨hmonths, h₁⟩ := eq_of_padded_append (by decide) (by omega) (by omega)
    (List.cons.inj hafter).2
  obtain ⟨hdays, h₂⟩ := eq_of_padded_append (by decide) (by omega) (by omega) (List.cons.inj h₁).2
  obtain ⟨hhours, h₃⟩ := eq_of_padded_append (by decide) (by omega) (by omega) (List.cons.inj h₂).2
  obtain ⟨hminutes, h₄⟩ := eq_of_padded_append (by decide) (by omega) (by omega)
    (List.cons.inj h₃).2
  obtain ⟨hseconds, h₅⟩ := eq_of_padded_append (by decide) (by omega) (by omega)
    (List.cons.inj h₄).2
  obtain ⟨hmillis, -⟩ := eq_of_padded_append (by decide) (by omega) (by omega) (List.cons.inj h₅).2
  obtain ⟨⟨y, mo, dd, hm, hd⟩, mi, se, na, hv, hs, hn⟩ := t
  obtain ⟨⟨y', mo', dd', hm', hd'⟩, mi', se', na', hv', hs', hn'⟩ := t'
  obtain rfl : y = y' := eq_of_printYear hyear
  obtain rfl : mo = mo' := hmonths
  obtain rfl : dd = dd' := hdays
  obtain rfl : mi = mi' := by dsimp only at hhours hminutes; omega
  obtain rfl : se = se' := hseconds
  simp only [truncate, hmillis]

end Webhook.Timestamp
