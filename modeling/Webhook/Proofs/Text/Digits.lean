/-!
# Runs of digits

The readers of numbers take the longest run of digits in front. What was written as digits is such a
run, if no digit follows it.
-/

namespace Webhook.Text

/-- The first character, if there is one, is no digit. -/
def NoDigitFirst (cs : List Char) : Prop := ∀ c ∈ cs.head?, c.isDigit = false

/-- Zeros are digits. -/
theorem isDigit_of_mem_zeros {n : Nat} {c : Char} (hc : c ∈ List.replicate n '0') :
    c.isDigit = true := by
  rw [List.eq_of_mem_replicate hc]
  rfl

variable {ds rest : List Char}

/-- Digits are taken up to the first character that is none. -/
theorem takeWhile_isDigit_append (hd : ∀ c ∈ ds, c.isDigit = true) (hr : NoDigitFirst rest) :
    (ds ++ rest).takeWhile Char.isDigit = ds := by
  rw [List.takeWhile_append_of_pos hd]
  cases rest with
  | nil => simp
  | cons c cs => simp [hr c rfl]

/-- Digits are dropped up to the first character that is none. -/
theorem dropWhile_isDigit_append (hd : ∀ c ∈ ds, c.isDigit = true) (hr : NoDigitFirst rest) :
    (ds ++ rest).dropWhile Char.isDigit = rest := by
  rw [List.dropWhile_append_of_pos hd]
  cases rest with
  | nil => rfl
  | cons c cs => simp [hr c rfl]

end Webhook.Text
