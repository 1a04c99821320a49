/-!
# Dictionaries

Finite maps from texts, as lists of entries in the order of their keys. Keys are ordered by code
points, which is also the order of their UTF-8 bytes. `put` replaces the value of a key that is
there, so of several entries with one key the last wins.
-/

namespace Webhook

namespace Entries

variable {α : Type}

/-- Whether the keys increase strictly. -/
def Sorted (entries : List (String × α)) : Prop :=
  entries.Pairwise fun a b => a.1 < b.1

/-- The entries with a value put under a key. -/
def put (key : String) (value : α) : List (String × α) → List (String × α)
  | [] => [(key, value)]
  | (k, v) :: rest =>
    if key < k then (key, value) :: (k, v) :: rest
    else if k < key then (k, v) :: put key value rest
    else (key, value) :: rest

/-- The entries of a list put one after another, so that the last one of a key wins. -/
def ofList (entries : List (String × α)) : List (String × α) :=
  entries.foldl (fun acc e => put e.1 e.2 acc) []

/-- Every key after a `put` was there before or is the one put. -/
theorem mem_put {key : String} {value : α} {entries : List (String × α)} {e : String × α}
    (h : e ∈ put key value entries) : e = (key, value) ∨ e ∈ entries := by
  induction entries with
  | nil => simpa [put] using h
  | cons head rest ih =>
    obtain ⟨k, v⟩ := head
    simp only [put] at h
    split at h
    · simpa using h
    · split at h
      · rcases List.mem_cons.1 h with h | h
        · simp [h]
        · rcases ih h with h | h <;> simp [h]
      · rcases List.mem_cons.1 h with h | h <;> simp [h]

/-- `put` keeps the keys sorted. -/
theorem sorted_put (key : String) (value : α) {entries : List (String × α)}
    (h : Sorted entries) : Sorted (put key value entries) := by
  induction entries with
  | nil => simp [put, Sorted]
  | cons head rest ih =>
    obtain ⟨k, v⟩ := head
    obtain ⟨hk, hrest⟩ := List.pairwise_cons.1 h
    simp only [put]
    split
    · rename_i hlt
      refine List.pairwise_cons.2 ⟨?_, h⟩
      intro e he
      rcases List.mem_cons.1 he with rfl | he
      · exact hlt
      · exact String.lt_trans hlt (hk e he)
    · split
      · rename_i hlt
        refine List.pairwise_cons.2 ⟨?_, ih hrest⟩
        intro e he
        rcases mem_put he with rfl | he
        · exact hlt
        · exact hk e he
      · rename_i hle hge
        have hkey : key = k := String.le_antisymm hge hle
        subst hkey
        exact List.pairwise_cons.2 ⟨hk, hrest⟩

/-- The entries put one after another onto sorted ones are sorted. -/
theorem sorted_foldl_put (list : List (String × α)) {acc : List (String × α)} (h : Sorted acc) :
    Sorted (list.foldl (fun acc e => put e.1 e.2 acc) acc) := by
  induction list generalizing acc with
  | nil => exact h
  | cons e rest ih => exact ih (sorted_put e.1 e.2 h)

/-- Every entry of the entries put one after another was one of them or there before. -/
theorem mem_foldl_put {list acc : List (String × α)} {e : String × α}
    (h : e ∈ list.foldl (fun acc e => put e.1 e.2 acc) acc) : e ∈ list ∨ e ∈ acc := by
  induction list generalizing acc with
  | nil => exact Or.inr h
  | cons head rest ih =>
    rcases ih h with h | h
    · exact Or.inl (List.mem_cons_of_mem _ h)
    · rcases mem_put h with rfl | h
      · exact Or.inl List.mem_cons_self
      · exact Or.inr h

/-- Every entry of the entries put one after another is one of them. -/
theorem mem_of_mem_ofList {list : List (String × α)} {e : String × α} (h : e ∈ ofList list) :
    e ∈ list := by
  simpa using mem_foldl_put h

/-- The entries put one after another are sorted. -/
theorem sorted_ofList (list : List (String × α)) : Sorted (ofList list) :=
  sorted_foldl_put list List.Pairwise.nil

end Entries

/-- A finite map from texts. -/
structure Dictionary (α : Type) where
  /-- The entries, in the order of their keys. -/
  entries : List (String × α)
  /-- No key comes twice, and the keys are in order. -/
  sorted : Entries.Sorted entries
  deriving DecidableEq

namespace Dictionary

variable {α : Type}

/-- The dictionary without entries. -/
def empty : Dictionary α := ⟨[], List.Pairwise.nil⟩

instance : Inhabited (Dictionary α) := ⟨empty⟩

/-- The dictionary with a value put under a key. -/
def insert (d : Dictionary α) (key : String) (value : α) : Dictionary α :=
  ⟨Entries.put key value d.entries, Entries.sorted_put key value d.sorted⟩

/-- The dictionary of a list of entries; of several with one key the last wins. -/
def ofList (entries : List (String × α)) : Dictionary α :=
  ⟨Entries.ofList entries, Entries.sorted_ofList entries⟩

end Dictionary

end Webhook
