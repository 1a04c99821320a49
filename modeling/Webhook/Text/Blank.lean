/-!
# Blank characters

White space in the sense of the Unicode property `White_Space`, and trimming by it. `trim` takes
blank characters off both ends and leaves inner ones; trimming a second time changes nothing
(`trim_trim`).
-/

namespace Webhook.Text

/-- Whether a character has the Unicode property `White_Space`. -/
def isBlank (c : Char) : Bool :=
  let n := c.toNat
  (9 ≤ n && n ≤ 13) || n == 0x20 || n == 0x85 || n == 0xA0 || n == 0x1680 ||
    (0x2000 ≤ n && n ≤ 0x200A) || n == 0x2028 || n == 0x2029 || n == 0x202F || n == 0x205F ||
    n == 0x3000

/-- The characters without the blank ones at the end. -/
def trimEnd (cs : List Char) : List Char :=
  (cs.reverse.dropWhile isBlank).reverse

/-- The characters without the blank ones at either end. -/
def trimChars (cs : List Char) : List Char :=
  trimEnd (cs.dropWhile isBlank)

/-- The text without the blank characters at either end. -/
def trim (s : String) : String :=
  String.ofList (trimChars s.toList)

/-- Whether a text has blank characters only, the empty text included. -/
def isBlankText (s : String) : Bool :=
  s.toList.all isBlank

/-! ## Trimming -/

/-- After dropping from the front, the first character, if any, is not blank. -/
theorem dropWhile_isBlank_idem (cs : List Char) :
    (cs.dropWhile isBlank).dropWhile isBlank = cs.dropWhile isBlank := by
  induction cs with
  | nil => rfl
  | cons c cs ih => by_cases h : isBlank c <;> simp [h, ih]

/-- Trimming the end a second time changes nothing. -/
theorem trimEnd_trimEnd (cs : List Char) : trimEnd (trimEnd cs) = trimEnd cs := by
  simp [trimEnd, dropWhile_isBlank_idem]

/-- Trimming the end stops before a character that is not blank. -/
theorem trimEnd_cons {c : Char} (h : isBlank c = false) (cs : List Char) :
    trimEnd (c :: cs) = c :: trimEnd cs := by
  have hlast : [c].dropWhile isBlank = [c] := by simp [h]
  unfold trimEnd
  rw [List.reverse_cons, List.dropWhile_append, hlast]
  split
  next hnil => simp [List.isEmpty_iff.1 hnil]
  next => simp

/-- Trimming characters a second time changes nothing. -/
theorem trimChars_trimChars (cs : List Char) : trimChars (trimChars cs) = trimChars cs := by
  have hidem := dropWhile_isBlank_idem cs
  unfold trimChars
  cases hcs : cs.dropWhile isBlank with
  | nil => rfl
  | cons c rest =>
    -- what is left begins with a character that is not blank, and keeps it when its end is trimmed
    have hc : isBlank c = false := by
      rw [hcs, List.dropWhile_cons] at hidem
      split at hidem
      next hb =>
        have hlength := congrArg List.length hidem
        have hle := (List.dropWhile_sublist isBlank (l := rest)).length_le
        rw [List.length_cons] at hlength
        omega
      next hb => simpa using hb
    have hdrop : (c :: trimEnd rest).dropWhile isBlank = c :: trimEnd rest := by simp [hc]
    rw [trimEnd_cons hc, hdrop, trimEnd_cons hc, trimEnd_trimEnd]

/-- Trimming a text a second time changes nothing. -/
theorem trim_trim (s : String) : trim (trim s) = trim s := by
  rw [trim, trim, String.toList_ofList, trimChars_trimChars]

end Webhook.Text
