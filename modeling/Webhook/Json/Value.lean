import Webhook.Dictionary
import Webhook.Json.Document
import Webhook.Json.Number

/-!
# JSON values

What a document stands for: texts without lone surrogates, numbers in range, and objects as maps,
with one value for each key in the order of keys. A value is read only to a depth of containers;
`sorted_of_ofDocument?` says that a value read from a document has its keys in order throughout.
-/

namespace Webhook.Json

/-- A JSON value. -/
inductive Value where
  /-- The null value. -/
  | null
  /-- A truth value. -/
  | bool (b : Bool)
  /-- A number. -/
  | number (n : Number)
  /-- A text. -/
  | string (s : String)
  /-- A sequence of values. -/
  | array (items : List Value)
  /-- A map from texts to values. -/
  | object (members : List (String × Value))

namespace Value

/-! ## Equality -/

mutual

/-- Decides whether two values are equal. -/
def decEq : (a b : Value) → Decidable (a = b)
  | .null, .null => isTrue rfl
  | .bool a, .bool b => if h : a = b then isTrue (h ▸ rfl) else isFalse (by simp [h])
  | .number a, .number b => if h : a = b then isTrue (h ▸ rfl) else isFalse (by simp [h])
  | .string a, .string b => if h : a = b then isTrue (h ▸ rfl) else isFalse (by simp [h])
  | .array xs, .array ys =>
    match decEqItems xs ys with
    | isTrue h => isTrue (h ▸ rfl)
    | isFalse h => isFalse (by simp [h])
  | .object xs, .object ys =>
    match decEqMembers xs ys with
    | isTrue h => isTrue (h ▸ rfl)
    | isFalse h => isFalse (by simp [h])
  | .null, .bool _ | .null, .number _ | .null, .string _ | .null, .array _ | .null, .object _
  | .bool _, .null | .bool _, .number _ | .bool _, .string _ | .bool _, .array _
  | .bool _, .object _ | .number _, .null | .number _, .bool _ | .number _, .string _
  | .number _, .array _ | .number _, .object _ | .string _, .null | .string _, .bool _
  | .string _, .number _ | .string _, .array _ | .string _, .object _ | .array _, .null
  | .array _, .bool _ | .array _, .number _ | .array _, .string _ | .array _, .object _
  | .object _, .null | .object _, .bool _ | .object _, .number _ | .object _, .string _
  | .object _, .array _ => isFalse nofun

/-- Decides whether two sequences of values are equal. -/
def decEqItems : (xs ys : List Value) → Decidable (xs = ys)
  | [], [] => isTrue rfl
  | x :: xs, y :: ys =>
    match decEq x y, decEqItems xs ys with
    | isTrue h, isTrue h' => isTrue (h ▸ h' ▸ rfl)
    | isFalse h, _ => isFalse (by simp [h])
    | _, isFalse h => isFalse (by simp [h])
  | [], _ :: _ | _ :: _, [] => isFalse nofun

/-- Decides whether two sequences of members are equal. -/
def decEqMembers : (xs ys : List (String × Value)) → Decidable (xs = ys)
  | [], [] => isTrue rfl
  | (j, x) :: xs, (k, y) :: ys =>
    if hk : j = k then
      match decEq x y, decEqMembers xs ys with
      | isTrue h, isTrue h' => isTrue (hk ▸ h ▸ h' ▸ rfl)
      | isFalse h, _ => isFalse (by simp [h])
      | _, isFalse h => isFalse (by simp [h])
    else isFalse (by simp [hk])
  | [], _ :: _ | _ :: _, [] => isFalse nofun

end

instance : DecidableEq Value := decEq

/-! ## Order of keys -/

mutual

/-- Whether every object in a value has its keys in strictly increasing order. -/
def Sorted : Value → Prop
  | .array items => SortedItems items
  | .object members => Entries.Sorted members ∧ SortedMembers members
  | _ => True

/-- Whether every value of a sequence is `Sorted`. -/
def SortedItems : List Value → Prop
  | [] => True
  | v :: vs => v.Sorted ∧ SortedItems vs

/-- Whether the value of every member is `Sorted`. -/
def SortedMembers : List (String × Value) → Prop
  | [] => True
  | (_, v) :: vs => v.Sorted ∧ SortedMembers vs

end

/-- The value of every member is sorted exactly when all values are. -/
theorem sortedMembers_iff {members : List (String × Value)} :
    SortedMembers members ↔ ∀ m ∈ members, m.2.Sorted := by
  induction members with
  | nil => simp [SortedMembers]
  | cons m rest ih => obtain ⟨k, v⟩ := m; simp [SortedMembers, ih]

/-! ## Reading -/

mutual

/-- The value of a document with at most `depth` containers one inside another. -/
def ofDocument? (depth : Nat) : Document → Option Value
  | .null => some .null
  | .bool b => some (.bool b)
  | .number n => (Number.ofNumeral? n).map .number
  | .string pieces => (Piece.text? pieces).map .string
  | .array items =>
    if depth = 0 then none else (itemsOf? (depth - 1) items).map .array
  | .object members =>
    if depth = 0 then none
    else (membersOf? (depth - 1) members).map fun ms => .object (Entries.ofList ms)

/-- The values of the items of an array. -/
def itemsOf? (depth : Nat) : List Document → Option (List Value)
  | [] => some []
  | d :: ds => do return (← ofDocument? depth d) :: (← itemsOf? depth ds)

/-- The keys and values of the members of an object, repetitions included. -/
def membersOf? (depth : Nat) : List (List Piece × Document) → Option (List (String × Value))
  | [] => some []
  | (key, d) :: ds => do
    return (← Piece.text? key, ← ofDocument? depth d) :: (← membersOf? depth ds)

end

mutual

/-- A value read from a document has its keys in order throughout. -/
theorem sorted_of_ofDocument? {depth : Nat} {v : Value} :
    (d : Document) → ofDocument? depth d = some v → v.Sorted
  | .null, h | .bool _, h => by
    simp only [ofDocument?, Option.some.injEq] at h
    subst h
    exact trivial
  | .number _, h | .string _, h => by
    simp only [ofDocument?, Option.map_eq_some_iff] at h
    obtain ⟨_, _, rfl⟩ := h
    exact trivial
  | .array items, h => by
    simp only [ofDocument?] at h
    split at h
    · simp at h
    · obtain ⟨vs, hvs, rfl⟩ := Option.map_eq_some_iff.1 h
      exact sorted_of_itemsOf? items hvs
  | .object members, h => by
    simp only [ofDocument?] at h
    split at h
    · simp at h
    · obtain ⟨ms, hms, rfl⟩ := Option.map_eq_some_iff.1 h
      refine ⟨Entries.sorted_ofList ms, sortedMembers_iff.2 fun m hm => ?_⟩
      exact sorted_of_membersOf? members hms m (Entries.mem_of_mem_ofList hm)

/-- Values read from the items of an array have their keys in order throughout. -/
theorem sorted_of_itemsOf? {depth : Nat} {vs : List Value} :
    (ds : List Document) → itemsOf? depth ds = some vs → SortedItems vs
  | [], h => by
    simp only [itemsOf?, Option.some.injEq] at h
    subst h
    exact trivial
  | d :: ds, h => by
    simp only [itemsOf?, bind, pure, Option.bind_eq_some_iff, Option.some.injEq] at h
    obtain ⟨v, hv, vs', hvs, rfl⟩ := h
    exact ⟨sorted_of_ofDocument? d hv, sorted_of_itemsOf? ds hvs⟩

/-- Values read from the members of an object have their keys in order throughout. -/
theorem sorted_of_membersOf? {depth : Nat} {ms : List (String × Value)} :
    (ds : List (List Piece × Document)) → membersOf? depth ds = some ms →
      ∀ m ∈ ms, m.2.Sorted
  | [], h => by
    simp only [membersOf?, Option.some.injEq] at h
    subst h
    simp
  | (key, d) :: ds, h => by
    simp only [membersOf?, bind, pure, Option.bind_eq_some_iff, Option.some.injEq] at h
    obtain ⟨k, _, v, hv, ms', hms, rfl⟩ := h
    intro m hm
    rcases List.mem_cons.1 hm with rfl | hm
    · exact sorted_of_ofDocument? d hv
    · exact sorted_of_membersOf? ds hms m hm

end

end Value

/-- The members of an object, with keys in order throughout. -/
structure Object where
  /-- The members. -/
  members : List (String × Value)
  /-- The keys are in order, here and in all values. -/
  sorted : (Value.object members).Sorted
  deriving DecidableEq

/-- The object without members. -/
def Object.empty : Object := ⟨[], by simp [Value.Sorted, Entries.Sorted, Value.SortedMembers]⟩

instance : Inhabited Object := ⟨Object.empty⟩

/-- The object of a value that is one. -/
def Object.ofValue? : (v : Value) → v.Sorted → Option Object
  | .object members, h => some ⟨members, h⟩
  | _, _ => none

/-- The object of a document with at most `depth` containers one inside another, itself
included. -/
def Object.ofDocument? (depth : Nat) (d : Document) : Option Object :=
  match h : Value.ofDocument? depth d with
  | some v => Object.ofValue? v (Value.sorted_of_ofDocument? d h)
  | none => none

end Webhook.Json
