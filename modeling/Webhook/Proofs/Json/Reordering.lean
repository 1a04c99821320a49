import Mathlib.Data.List.Perm.Basic
import Webhook.Proofs.Json.Records

/-!
# The order of members

`Document.Reorders` says that the members of one object of a document, at any depth, stand in
another order; no key of that object comes twice. Such documents are read as the same value
(`Value.ofDocument?_eq_of_reorders`), because the members of an object are put in the order of their
keys.
-/

namespace Webhook

/-! ## Entries of different keys -/

namespace Entries

variable {α : Type} {list list' : List (String × α)}

/-- An entry with a new key is put somewhere among the others. -/
theorem put_perm {key : String} {value : α} (h : key ∉ list.map Prod.fst) :
    (put key value list).Perm ((key, value) :: list) := by
  induction list with
  | nil => exact .refl _
  | cons e rest ih =>
    obtain ⟨k, v⟩ := e
    rw [List.map_cons, List.mem_cons, not_or] at h
    -- the entry goes before the head, or further back, as no key is the same
    simp only [put]
    split
    · exact .refl _
    · split
      · exact ((ih h.2).cons _).trans (.swap _ _ _)
      next hle hge => exact absurd (String.le_antisymm hge hle) h.1

/-- Putting entries one after another orders them in some way, if no key comes twice. -/
theorem foldl_put_perm {acc : List (String × α)} (h : ((list ++ acc).map Prod.fst).Nodup) :
    (list.foldl (fun acc e => put e.1 e.2 acc) acc).Perm (list ++ acc) := by
  induction list generalizing acc with
  | nil => exact .refl _
  | cons e rest ih =>
    rw [List.cons_append, List.map_cons, List.nodup_cons, List.map_append, List.mem_append,
      not_or] at h
    -- what has been put moves to the front
    have hput : (put e.1 e.2 acc).Perm (e :: acc) := put_perm h.1.2
    have hmoved : (rest ++ put e.1 e.2 acc).Perm (e :: (rest ++ acc)) :=
      (hput.append_left rest).trans List.perm_middle
    refine (ih ?_).trans hmoved
    rw [(hmoved.map Prod.fst).nodup_iff, List.map_cons, List.nodup_cons, List.map_append,
      List.mem_append, not_or]
    exact h

/-- Entries of different keys put one after another are those entries in another order. -/
theorem ofList_perm (h : (list.map Prod.fst).Nodup) : (ofList list).Perm list := by
  have hfold : (ofList list).Perm (list ++ []) := foldl_put_perm (by rwa [List.append_nil])
  rwa [List.append_nil] at hfold

/-- The order in which entries of different keys are put does not matter. -/
theorem ofList_eq_of_perm (hperm : list.Perm list') (h : (list.map Prod.fst).Nodup) :
    ofList list = ofList list' := by
  have h' : (list'.map Prod.fst).Nodup := (hperm.map Prod.fst).nodup_iff.1 h
  have hofList : (ofList list).Perm (ofList list') :=
    ((ofList_perm h).trans hperm).trans (ofList_perm h').symm
  -- both are sorted, and only equal lists are sorted permutations of each other
  refine hofList.eq_of_pairwise (fun a b _ _ hab hba => ?_) (sorted_ofList list)
    (sorted_ofList list')
  exact absurd hba (String.lt_asymm hab)

end Entries

namespace Json

/-- The pieces of a text are the only ones that spell it. -/
theorem Piece.text?_eq_some_iff {ps : List Piece} {s : String} :
    text? ps = some s ↔ ps = ofText s := by
  -- pieces that are all characters are those characters
  have hchars : ∀ (ps : List Piece) (cs : List Char), ps.mapM char? = some cs →
      ps = cs.map .char := by
    intro ps
    induction ps with
    | nil =>
      intro cs hcs
      cases hcs
      rfl
    | cons p ps ih =>
      intro cs hcs
      rw [List.mapM_cons] at hcs
      obtain ⟨c, hc, hrest⟩ := Option.bind_eq_some_iff.1 hcs
      obtain ⟨rest, hps, hcons⟩ := Option.bind_eq_some_iff.1 hrest
      obtain rfl := Option.some.inj hcons
      cases p with
      | char c' =>
        obtain rfl : c' = c := Option.some.inj hc
        rw [List.map_cons, ← ih rest hps]
      | surrogate => cases hc
  constructor
  · intro h
    obtain ⟨cs, hcs, rfl⟩ := Option.map_eq_some_iff.1 h
    rw [ofText, String.toList_ofList]
    exact hchars ps cs hcs
  · rintro rfl
    exact text?_ofText s

/-! ## Members in another order -/

/-- Whether the members of one object, at any depth, stand in another order. -/
inductive Document.Reorders : Document → Document → Prop where
  /-- The members of this object do. -/
  | members {ms ms' : List (List Piece × Document)} (hnodup : (ms.map Prod.fst).Nodup)
    (h : ms.Perm ms') : Reorders (.object ms) (.object ms')
  /-- Those of an object in an item of this array do. -/
  | item {before after : List Document} {d d' : Document} (h : Reorders d d') :
    Reorders (.array (before ++ d :: after)) (.array (before ++ d' :: after))
  /-- Those of an object in the value of a member of this object do. -/
  | member {before after : List (List Piece × Document)} {key : List Piece} {d d' : Document}
    (h : Reorders d d') :
    Reorders (.object (before ++ (key, d) :: after)) (.object (before ++ (key, d') :: after))

namespace Document.Reorders

variable {d d' : Document}

/-- Neither of two reorderings is null. -/
theorem ne_null (h : Reorders d d') : d ≠ .null ∧ d' ≠ .null := by
  cases h <;> exact ⟨Document.noConfusion, Document.noConfusion⟩

/-- Neither of two reorderings is a text. -/
theorem text?_eq_none (h : Reorders d d') : d.text? = none ∧ d'.text? = none := by
  cases h <;> exact ⟨rfl, rfl⟩

end Document.Reorders

/-! ## Values -/

namespace Value

variable {limit : Nat} {d d' : Document} {ms ms' : List (List Piece × Document)}
  {vs : List (String × Value)}

/-- Members are read one by one: the key as a text, and the document as a value. -/
theorem membersOf?_eq_some_iff : membersOf? limit ms = some vs ↔
    List.Forall₂ (fun m v => Piece.text? m.1 = some v.1 ∧ ofDocument? limit m.2 = some v.2)
      ms vs := by
  induction ms generalizing vs with
  | nil => simp [membersOf?, eq_comm]
  | cons m ms ih =>
    obtain ⟨key, d⟩ := m
    rw [membersOf?, List.forall₂_cons_left_iff]
    simp only [Option.bind_eq_bind, Option.bind_eq_some_iff, ih]
    constructor
    · rintro ⟨k, hk, v, hv, vs', hvs, h⟩
      exact ⟨(k, v), vs', ⟨hk, hv⟩, hvs, (Option.some.inj h).symm⟩
    · rintro ⟨⟨k, v⟩, vs', ⟨hk, hv⟩, hvs, rfl⟩
      exact ⟨k, hk, v, hv, vs', hvs, rfl⟩

/-- Different keys are those of different texts. -/
theorem nodup_of_membersOf? (h : membersOf? limit ms = some vs) (hnodup : (ms.map Prod.fst).Nodup) :
    (vs.map Prod.fst).Nodup := by
  have hkeys : ms.map Prod.fst = (vs.map Prod.fst).map Piece.ofText := by
    rw [membersOf?_eq_some_iff] at h
    induction h with
    | nil => rfl
    | cons hm _ ih =>
      rw [List.map_cons, List.nodup_cons] at hnodup
      rw [List.map_cons, List.map_cons, List.map_cons, ih hnodup.2,
        Piece.text?_eq_some_iff.1 hm.1]
  rw [hkeys] at hnodup
  exact hnodup.of_map _

/-- Members in another order are read as the same values in another order. -/
theorem membersOf?_perm (hperm : ms.Perm ms') (hnodup : (ms.map Prod.fst).Nodup)
    (h : membersOf? limit ms = some vs) :
    ∃ vs', membersOf? limit ms' = some vs' ∧ Entries.ofList vs = Entries.ofList vs' := by
  obtain ⟨vs', hvs', hperm'⟩ := List.perm_comp_forall₂ hperm.symm (membersOf?_eq_some_iff.1 h)
  exact ⟨vs', membersOf?_eq_some_iff.2 hvs',
    (Entries.ofList_eq_of_perm hperm'.symm (nodup_of_membersOf? h hnodup))⟩

/-- Items are read alike when one of them is replaced by a document that is read alike. -/
theorem itemsOf?_congr (h : ofDocument? limit d = ofDocument? limit d')
    (before after : List Document) :
    itemsOf? limit (before ++ d :: after) = itemsOf? limit (before ++ d' :: after) := by
  induction before with
  | nil => rw [List.nil_append, List.nil_append, itemsOf?, itemsOf?, h]
  | cons e before ih => rw [List.cons_append, List.cons_append, itemsOf?, itemsOf?, ih]

/-- Members are read alike when the document of one is replaced by one that is read alike. -/
theorem membersOf?_congr (h : ofDocument? limit d = ofDocument? limit d') (key : List Piece)
    (before after : List (List Piece × Document)) :
    membersOf? limit (before ++ (key, d) :: after) =
      membersOf? limit (before ++ (key, d') :: after) := by
  induction before with
  | nil => rw [List.nil_append, List.nil_append, membersOf?, membersOf?, h]
  | cons m before ih =>
    obtain ⟨k, e⟩ := m
    rw [List.cons_append, List.cons_append, membersOf?, membersOf?, ih]

/-- Documents whose members stand in another order are read as the same value. -/
theorem ofDocument?_eq_of_reorders (h : d.Reorders d') (limit : Nat) :
    ofDocument? limit d = ofDocument? limit d' := by
  induction h generalizing limit with
  | @members ms ms' hnodup hperm =>
    have hnodup' : (ms'.map Prod.fst).Nodup := (hperm.map Prod.fst).nodup_iff.1 hnodup
    -- either both are read, or none is
    have hmembers : (membersOf? (limit - 1) ms).map (fun vs => object (Entries.ofList vs)) =
        (membersOf? (limit - 1) ms').map fun vs => object (Entries.ofList vs) := by
      cases hms : membersOf? (limit - 1) ms with
      | some vs =>
        obtain ⟨vs', hms', hofList⟩ := membersOf?_perm hperm hnodup hms
        rw [hms', Option.map_some, Option.map_some, hofList]
      | none =>
        cases hms' : membersOf? (limit - 1) ms' with
        | none => rfl
        | some vs' =>
          obtain ⟨vs, hvs, -⟩ := membersOf?_perm hperm.symm hnodup' hms'
          rw [hms] at hvs
          cases hvs
    rw [ofDocument?, ofDocument?, hmembers]
  | item _ ih => rw [ofDocument?, ofDocument?, itemsOf?_congr (ih (limit - 1))]
  | member _ ih => rw [ofDocument?, ofDocument?, membersOf?_congr (ih (limit - 1))]

end Value

/-- Reorderings are read as the same object. -/
theorem Object.ofDocument?_eq_of_reorders {d d' : Document} (h : d.Reorders d') (limit : Nat) :
    Object.ofDocument? limit d = Object.ofDocument? limit d' := by
  ext o
  rw [Object.ofDocument?_eq_some_iff, Object.ofDocument?_eq_some_iff,
    Value.ofDocument?_eq_of_reorders h]

end Json

end Webhook
