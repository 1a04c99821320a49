import Mathlib.Data.List.TakeWhile
import Webhook.Text.Blank

/-!
# What trimming takes off

A text is its trimmed form with blank characters around it (`eq_append_trim`), and blank characters
around a text make no difference to its trimmed form (`trimChars_append`).
-/

namespace Webhook.Text

/-- Blank characters at the end are trimmed. -/
theorem trimEnd_append {after : List Char} (h : ∀ c ∈ after, isBlank c = true) (cs : List Char) :
    trimEnd (cs ++ after) = trimEnd cs := by
  have hreverse : ∀ c ∈ after.reverse, isBlank c = true := fun c hc => h c (List.mem_reverse.1 hc)
  rw [trimEnd, List.reverse_append, List.dropWhile_append_of_pos hreverse, trimEnd]

/-- Blank characters around others are trimmed. -/
theorem trimChars_append {before after : List Char} (hbefore : ∀ c ∈ before, isBlank c = true)
    (hafter : ∀ c ∈ after, isBlank c = true) (cs : List Char) :
    trimChars (before ++ cs ++ after) = trimChars cs := by
  rw [trimChars, List.append_assoc, List.dropWhile_append_of_pos hbefore, trimChars,
    List.dropWhile_append]
  split
  next hempty =>
    -- nothing is left of the characters themselves
    have hnone : after.dropWhile isBlank = [] := by
      rw [← List.append_nil after, List.dropWhile_append_of_pos hafter]
      rfl
    rw [hnone, List.isEmpty_iff.1 hempty]
  next => rw [trimEnd_append hafter]

/-- Characters that are not blank are not trimmed. -/
theorem trimChars_of_not_blank {cs : List Char} (h : ∀ c ∈ cs, isBlank c = false) :
    trimChars cs = cs := by
  have hdrop : ∀ ds : List Char, (∀ c ∈ ds, isBlank c = false) → ds.dropWhile isBlank = ds := by
    intro ds hds
    cases ds with
    | nil => rfl
    | cons d ds => exact List.dropWhile_cons_of_neg (by simp [hds d (by simp)])
  rw [trimChars, trimEnd, hdrop cs h, hdrop cs.reverse (fun c hc => h c (List.mem_reverse.1 hc)),
    List.reverse_reverse]

/-- A text is blanks and what is left when these are dropped. -/
theorem eq_append_dropWhile (cs : List Char) :
    ∃ before, (∀ c ∈ before, isBlank c = true) ∧ cs = before ++ cs.dropWhile isBlank :=
  ⟨cs.takeWhile isBlank, fun _ hc => List.mem_takeWhile_imp hc,
    List.takeWhile_append_dropWhile.symm⟩

/-- What trimming takes off at the end is blank. -/
theorem eq_trimEnd_append (cs : List Char) :
    ∃ after, (∀ c ∈ after, isBlank c = true) ∧ cs = trimEnd cs ++ after := by
  obtain ⟨before, hbefore, heq⟩ := eq_append_dropWhile cs.reverse
  refine ⟨before.reverse, fun c hc => hbefore c (List.mem_reverse.1 hc), ?_⟩
  rw [trimEnd, ← List.reverse_append, ← heq, List.reverse_reverse]

/-- A text is its trimmed form with blank texts around it. -/
theorem eq_append_trim (s : String) : ∃ before after : String, isBlankText before = true ∧
    isBlankText after = true ∧ s = before ++ trim s ++ after := by
  obtain ⟨before, hbefore, hdrop⟩ := eq_append_dropWhile s.toList
  obtain ⟨after, hafter, hend⟩ := eq_trimEnd_append (s.toList.dropWhile isBlank)
  refine ⟨String.ofList before, String.ofList after, ?_, ?_, ?_⟩
  · simpa [isBlankText] using hbefore
  · simpa [isBlankText] using hafter
  · rw [trim, trimChars, ← String.ofList_append, ← String.ofList_append, List.append_assoc, ← hend,
      ← hdrop, String.ofList_toList]

end Webhook.Text
