import Webhook.Bootstrap

/-!
# Lists with commas

What the urls and secrets of a bootstrap are: the pieces between the commas, trimmed
(`splitList_eq`). A declared endpoint is a place in the list of urls whose piece is not empty, and
its secret stands at the same place in the other list, if anything does (`Bootstrap.pairs_eq`).
Whatever is left out, no place moves.
-/

namespace Webhook

/-- The pieces between commas are those of the list library. -/
theorem commaPieces_eq_splitOn (cs : List Char) : commaPieces cs = cs.splitOn ',' := by
  induction cs with
  | nil => rfl
  | cons c cs ih =>
    rw [commaPieces, ih, List.splitOn, List.splitOn, List.splitOnP_cons_eq_if_modifyHead]
    by_cases hc : c = ','
    · rw [if_pos hc, if_pos (by simpa using hc)]
    · rw [if_neg hc, if_neg (by simpa using hc)]
      cases hsplit : cs.splitOnP (· == ',') with
      | nil => exact absurd hsplit (List.splitOnP_ne_nil _ _)
      | cons piece rest => rfl

/-- The pieces of a text between commas, trimmed; a blank text has none. -/
def trimmedPieces (s : String) : List String :=
  if Text.isBlankText s then []
  else (s.toList.splitOn ',').map fun piece => Text.trim (String.ofList piece)

/-- A list is split into its pieces between commas, trimmed. -/
theorem splitList_eq (s : String) : splitList s = trimmedPieces s := by
  simp only [splitList, trimmedPieces, commaPieces_eq_splitOn, Text.trim, String.toList_ofList]

/-- Trimming a piece again changes nothing. -/
theorem trim_of_mem_trimmedPieces {s piece : String} (h : piece ∈ trimmedPieces s) :
    Text.trim piece = piece := by
  unfold trimmedPieces at h
  split at h
  · cases h
  · obtain ⟨raw, -, rfl⟩ := List.mem_map.1 h
    exact Text.trim_trim _

namespace Bootstrap

/-- The url at a place, with the secret at the same place if that is not empty. -/
def pairAt (b : Bootstrap) (i : Nat) : String × Option String :=
  (b.urls.getD i "", b.secrets[i]?.filter fun secret => !secret.isEmpty)

/-- The url of a pair is the one at its place. -/
theorem fst_pairAt {b : Bootstrap} {i : Nat} (hi : i < b.urls.length) :
    (b.pairAt i).1 = b.urls[i] := by
  rw [pairAt, List.getD_eq_getElem?_getD, List.getElem?_eq_getElem hi, Option.getD_some]

/-- The pairs are those at the places whose url is not empty, in order. -/
theorem pairs_eq (b : Bootstrap) :
    b.pairs =
      ((List.range b.urls.length).filter fun i => !(b.pairAt i).1.isEmpty).map b.pairAt := by
  have hindexed : b.urls.zipIdx =
      (List.range b.urls.length).map fun i => (b.urls.getD i "", i) := by
    refine List.ext_getElem (by simp) fun i hi hi' => ?_
    simp only [List.length_zipIdx] at hi
    simp [hi]
  have hkept : (fun i => if (b.pairAt i).1.isEmpty then none else some (b.pairAt i)) =
      fun i => (Option.guard (fun i => !(b.pairAt i).1.isEmpty) i).map b.pairAt := by
    funext i
    cases hi : (b.pairAt i).1.isEmpty <;> simp [Option.guard, hi]
  rw [pairs, hindexed, List.filterMap_map, ← List.filterMap_eq_filter, List.map_filterMap]
  exact congrArg (fun f => (List.range b.urls.length).filterMap f) hkept

end Bootstrap

end Webhook
