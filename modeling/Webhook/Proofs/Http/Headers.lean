import Mathlib.Data.List.Induction
import Webhook.Http.Request
import Webhook.Inbound

/-!
# What header maps and receivers make of headers

A header map is made by setting one header after another, and a receiver takes its two headers from
a list; with either, the last header with a name counts (`HeaderMap.get?_foldl_set`,
`SignatureHeaders.signature_ofHeaders`). The names in a map are in lower case and different, so that
a receiver of the headers of a map finds what the map holds (`HeaderMap.lastValue?_entries`).
-/

namespace Webhook

/-! ## Lower case -/

namespace Text

/-- A character that is lowered already stays as it is. -/
theorem lowerChar_lowerChar (c : Char) : lowerChar (lowerChar c) = lowerChar c := by
  have hletters : ∀ n < 91, 65 ≤ n → lowerChar (Char.ofNat (n + 32)) = Char.ofNat (n + 32) := by
    decide
  by_cases h : 'A' ≤ c ∧ c ≤ 'Z'
  · have hlower : lowerChar c = Char.ofNat (c.toNat + 32) := if_pos h
    have hfirst : 65 ≤ c.toNat := h.1
    have hlast : c.toNat ≤ 90 := h.2
    rw [hlower]
    exact hletters c.toNat (by omega) hfirst
  · rw [show lowerChar c = c from if_neg h]
    exact if_neg h

/-- A text in lower case stays as it is. -/
theorem lower_lower (s : String) : lower (lower s) = lower s := by
  simp [lower, Function.comp_def, lowerChar_lowerChar]

/-- Two names are the same but for their case when they are lowered alike. -/
theorem sameIgnoringCase_iff {s t : String} : sameIgnoringCase s t = true ↔ lower s = lower t :=
  beq_iff_eq

/-- Sameness but for the case is symmetric. -/
theorem sameIgnoringCase_symm {s t : String} (h : sameIgnoringCase s t = true) :
    sameIgnoringCase t s = true :=
  sameIgnoringCase_iff.2 (sameIgnoringCase_iff.1 h).symm

/-- Sameness but for the case is transitive. -/
theorem sameIgnoringCase_trans {s t u : String} (h : sameIgnoringCase s t = true)
    (h' : sameIgnoringCase t u = true) : sameIgnoringCase s u = true :=
  sameIgnoringCase_iff.2 ((sameIgnoringCase_iff.1 h).trans (sameIgnoringCase_iff.1 h'))

end Text

/-! ## Looking up -/

namespace Entries

variable {α : Type}

/-- The first entry is found under its key, and otherwise the rest is searched. -/
theorem lookup_cons (key other : String) (value : α) (rest : List (String × α)) :
    ((key, value) :: rest).lookup other =
      if other = key then some value else rest.lookup other := by
  by_cases h : other = key
  · simp [h]
  · have hbeq : (other == key) = false := by simpa using h
    simp [List.lookup_cons, hbeq, h]

/-- What was put is found under its key, and everything else as before. -/
theorem lookup_put (key other : String) (value : α) (entries : List (String × α)) :
    (put key value entries).lookup other =
      if other = key then some value else entries.lookup other := by
  induction entries with
  | nil => exact lookup_cons key other value []
  | cons head rest ih =>
    obtain ⟨k, v⟩ := head
    simp only [put]
    split
    · rw [lookup_cons]
    · split
      next hlt =>
        -- the key stands further back
        have hne : k ≠ key := fun h => String.lt_irrefl key (h ▸ hlt)
        rw [lookup_cons, lookup_cons, ih]
        by_cases hk : other = k
        · rw [if_pos hk, if_pos hk, if_neg (hk ▸ hne)]
        · rw [if_neg hk, if_neg hk]
      next hge hle =>
        obtain rfl : key = k := String.le_antisymm hle hge
        rw [lookup_cons, lookup_cons]
        split <;> rfl

/-- Of the sorted entries that a test holds of, the last one has the greatest key. -/
theorem exists_getLast?_filter {entries : List (String × α)} (h : Sorted entries)
    {p : String × α → Bool} {e : String × α} (he : e ∈ entries) (hp : p e = true) :
    ∃ l ∈ entries, p l = true ∧ (entries.filter p).getLast? = some l ∧
      ∀ other ∈ entries, p other = true → other = l ∨ other.1 < l.1 := by
  have hmem : e ∈ entries.filter p := List.mem_filter.2 ⟨he, hp⟩
  -- entries in order, so that the last of those that pass is the greatest
  obtain ⟨init, l, hfilter⟩ := (List.eq_nil_or_concat _).resolve_left (List.ne_nil_of_mem hmem)
  rw [List.concat_eq_append] at hfilter
  have hl : l ∈ entries.filter p := by simp [hfilter]
  have hsorted : (init ++ [l]).Pairwise fun a b => a.1 < b.1 := hfilter ▸ h.filter p
  obtain ⟨-, -, hless⟩ := List.pairwise_append.1 hsorted
  obtain ⟨hentry, hpl⟩ := List.mem_filter.1 hl
  refine ⟨l, hentry, hpl, by simp [hfilter], fun other hother hpo => ?_⟩
  have hinit : other ∈ init ++ [l] := hfilter ▸ List.mem_filter.2 ⟨hother, hpo⟩
  rcases List.mem_append.1 hinit with hinit | hinit
  · exact .inr (hless other hinit l (by simp))
  · exact .inl (List.mem_singleton.1 hinit)

/-- In sorted entries the last entry of a key is the only one. -/
theorem getLast?_filter_key {entries : List (String × α)} (h : Sorted entries) (key : String) :
    (entries.filter fun e => e.1 == key).getLast?.map Prod.snd = entries.lookup key := by
  induction entries with
  | nil => rfl
  | cons head rest ih =>
    obtain ⟨k, v⟩ := head
    obtain ⟨hk, hrest⟩ := List.pairwise_cons.1 h
    rw [lookup_cons]
    by_cases heq : key = k
    · subst heq
      -- the keys after it are greater, and so none is the same
      have hnone : (rest.filter fun e => e.1 == key) = [] := by
        rw [List.filter_eq_nil_iff]
        intro e he hkey
        rw [beq_iff_eq] at hkey
        exact String.lt_irrefl key (hkey ▸ hk e he)
      simp [hnone]
    · rw [if_neg heq, List.filter_cons_of_neg (by simpa using Ne.symm heq)]
      exact ih hrest

end Entries

namespace Dictionary

variable {α : Type}

/-- The value under a key. -/
def get? (d : Dictionary α) (key : String) : Option α := d.entries.lookup key

/-- A value is found under a key exactly if they are an entry. -/
theorem get?_eq_some_iff (d : Dictionary α) {key : String} {value : α} :
    d.get? key = some value ↔ (key, value) ∈ d.entries := by
  rw [get?, ← Entries.getLast?_filter_key d.sorted]
  constructor
  · intro h
    obtain ⟨⟨k, v⟩, he, hv⟩ := Option.map_eq_some_iff.1 h
    obtain ⟨hmem, hkey⟩ := List.mem_filter.1 (List.mem_of_getLast? he)
    rw [← hv, ← beq_iff_eq.1 hkey]
    exact hmem
  · intro h
    -- the last entry with the key is the given one, as no key is less than itself
    obtain ⟨l, hl, hkey, hlast, hless⟩ := Entries.exists_getLast?_filter d.sorted
      (p := fun e => e.1 == key) h (beq_self_eq_true key)
    rcases hless _ h (beq_self_eq_true key) with heq | hlt
    · rw [hlast, ← heq]
      rfl
    · exact absurd hlt (beq_iff_eq.1 hkey ▸ String.lt_irrefl _)

/-- What was inserted is found under its key, and everything else as before. -/
theorem get?_insert (d : Dictionary α) (key other : String) (value : α) :
    (d.insert key value).get? other = if other = key then some value else d.get? other :=
  Entries.lookup_put key other value d.entries

/-- The entries of a dictionary, put onto another one, win over those of the other. -/
theorem get?_foldl_insert (d base : Dictionary α) (key : String) :
    (d.entries.foldl (fun acc e => insert acc e.1 e.2) base).get? key =
      (d.get? key).or (base.get? key) := by
  obtain ⟨entries, sorted⟩ := d
  change _ = (entries.lookup key).or (base.get? key)
  induction entries generalizing base with
  | nil => rfl
  | cons head rest ih =>
    obtain ⟨k, v⟩ := head
    obtain ⟨hk, hrest⟩ := List.pairwise_cons.1 sorted
    rw [List.foldl_cons, ih _ hrest, get?_insert, Entries.lookup_cons]
    by_cases heq : key = k
    · subst heq
      -- the key does not come again
      have hnone : rest.lookup key = none := by
        rw [List.lookup_eq_none_iff]
        intro e he
        have hne : key ≠ e.1 := fun h => String.lt_irrefl key (h ▸ hk e he)
        simpa using hne
      rw [hnone, if_pos rfl, if_pos rfl]
      rfl
    · rw [if_neg heq, if_neg heq]

end Dictionary

/-- The value of the last header that a test holds of. -/
def lastValue? (test : String × String → Bool) (headers : HeaderList) : Option String :=
  (headers.filter test).getLast?.map Prod.snd

/-- A header that comes last counts if it passes the test. -/
theorem lastValue?_concat (test : String × String → Bool) (headers : HeaderList)
    (h : String × String) : lastValue? test (headers ++ [h]) =
      if test h then some h.2 else lastValue? test headers := by
  unfold lastValue?
  rw [List.filter_append]
  cases ht : test h <;> simp [ht]

/-- A value found is that of a header that passes the test. -/
theorem exists_of_lastValue? {test : String × String → Bool} {headers : HeaderList} {value : String}
    (h : lastValue? test headers = some value) : ∃ given ∈ headers, test given = true := by
  obtain ⟨given, hgiven, -⟩ := Option.map_eq_some_iff.1 h
  exact ⟨given, List.mem_filter.1 (List.mem_of_getLast? hgiven)⟩

/-- Where the later headers have none that the test holds of, the earlier ones count. -/
theorem lastValue?_append (test : String × String → Bool) (headers later : HeaderList) :
    lastValue? test (headers ++ later) =
      (lastValue? test later).or (lastValue? test headers) := by
  unfold lastValue?
  rw [List.filter_append, List.getLast?_append]
  cases (later.filter test).getLast? <;> rfl

/-! ## Header maps -/

namespace HeaderMap

/-- A header has the name and the value of one. -/
def isLegal (h : String × String) : Bool := isHeaderName h.1 && isHeaderValue h.2

/-- All names are in lower case. -/
def Lowered (headers : HeaderMap) : Prop := ∀ e ∈ headers.entries, Text.lower e.1 = e.1

/-- A header that was set is found under its lowered name, if it is legal, and everything else as
before. -/
theorem get?_set (headers : HeaderMap) (h : String × String) (key : String) :
    (headers.set h.1 h.2).get? key =
      if isLegal h && Text.lower h.1 == key then some h.2 else headers.get? key := by
  unfold set
  change (if isLegal h = true then _ else _ : HeaderMap).get? key = _
  cases hl : isLegal h with
  | false => simp
  | true =>
    simp only [if_true, Bool.true_and, beq_iff_eq]
    rw [Dictionary.get?_insert]
    exact if_congr eq_comm rfl rfl

/-- Of the headers that are set one after another, the last legal one with a name counts. -/
theorem get?_foldl_set (list : HeaderList) (key : String) :
    (list.foldl (fun headers h => set headers h.1 h.2) Dictionary.empty).get? key =
      lastValue? (fun h => isLegal h && Text.lower h.1 == key) list := by
  induction list using List.reverseRecOn with
  | nil => rfl
  | append_singleton list h ih =>
    rw [List.foldl_append, lastValue?_concat, ← ih]
    exact get?_set _ h key

/-- Among headers with different names, each legal one counts. -/
theorem lastValue?_of_mem {list : HeaderList} (hn : (list.map fun h => Text.lower h.1).Nodup)
    {h : String × String} (hmem : h ∈ list) :
    lastValue? (fun other => isLegal other && Text.lower other.1 == Text.lower h.1) list =
      if isLegal h then some h.2 else none := by
  obtain ⟨before, after, rfl⟩ := List.append_of_mem hmem
  -- no other header has the same name
  have hothers : ∀ other ∈ before ++ after, Text.lower other.1 ≠ Text.lower h.1 := by
    intro other ho heq
    have hperm : (before ++ h :: after).Perm (h :: (before ++ after)) := List.perm_middle
    rw [(hperm.map fun h : String × String => Text.lower h.1).nodup_iff] at hn
    have hnew := (List.nodup_cons.1 hn).1
    exact hnew (List.mem_map.2 ⟨other, ho, heq⟩)
  have hnone : ∀ part, part ⊆ before ++ after → (part.filter fun other =>
      isLegal other && Text.lower other.1 == Text.lower h.1) = [] := by
    intro part hsub
    rw [List.filter_eq_nil_iff]
    intro other ho
    simp [hothers other (hsub ho)]
  unfold lastValue?
  rw [List.filter_append, List.filter_cons, hnone before (List.subset_append_left ..),
    hnone after (List.subset_append_right ..)]
  cases hl : isLegal h <;> simp

/-- Without headers every name is lowered. -/
theorem lowered_empty : Lowered Dictionary.empty := by
  intro e he
  cases he

/-- A header inserted under a lowered name leaves all names lowered. -/
theorem Lowered.insert {headers : HeaderMap} (hl : headers.Lowered) {name : String}
    (hn : Text.lower name = name) (value : String) :
    Lowered (Dictionary.insert headers name value) := by
  intro e he
  rcases Entries.mem_put he with rfl | he
  · exact hn
  · exact hl e he

/-- A header is set under its lowered name. -/
theorem Lowered.set {headers : HeaderMap} (hl : headers.Lowered) (name value : String) :
    (headers.set name value).Lowered := by
  unfold HeaderMap.set
  split
  · exact hl.insert (Text.lower_lower name) value
  · exact hl

/-- Headers that are set one after another leave all names lowered. -/
theorem Lowered.foldl_set {headers : HeaderMap} (hl : headers.Lowered) (list : HeaderList) :
    (list.foldl (fun headers h => HeaderMap.set headers h.1 h.2) headers).Lowered := by
  induction list generalizing headers with
  | nil => exact hl
  | cons h rest ih => exact ih (hl.set h.1 h.2)

/-- Headers with lowered names leave all names lowered when they are inserted into such. -/
theorem Lowered.foldl_insert {headers base : HeaderMap} (hl : headers.Lowered)
    (hb : base.Lowered) :
    Lowered (headers.entries.foldl (fun acc e => Dictionary.insert acc e.1 e.2) base) := by
  unfold Lowered at hl
  generalize headers.entries = entries at hl
  induction entries generalizing base with
  | nil => exact hb
  | cons e rest ih =>
    exact ih (hb.insert (hl e List.mem_cons_self) e.2) fun e' he =>
      hl e' (List.mem_cons_of_mem _ he)

/-- Leaving out headers leaves all names lowered. -/
theorem Lowered.without {headers : HeaderMap} (hl : headers.Lowered) (names : List String) :
    (headers.without names).Lowered := fun e he => hl e (List.mem_filter.1 he).1

/-- Other headers stay. -/
theorem get?_without (headers : HeaderMap) {names : List String} {key : String}
    (hkey : key ∉ names) : (headers.without names).get? key = headers.get? key := by
  change (headers.entries.filter _).lookup key = headers.entries.lookup key
  induction headers.entries with
  | nil => rfl
  | cons head rest ih =>
    obtain ⟨k, v⟩ := head
    rw [Entries.lookup_cons]
    by_cases heq : key = k
    · subst heq
      rw [List.filter_cons_of_pos (by simpa using hkey), Entries.lookup_cons, if_pos rfl,
        if_pos rfl]
    · rw [if_neg heq, ← ih]
      -- another entry is left out or passed over
      by_cases hk : names.contains k
      · rw [List.filter_cons_of_neg (by simpa using hk)]
      · rw [List.filter_cons_of_pos (by simpa using hk), Entries.lookup_cons, if_neg heq]

/-- The last header of a map with a name is the one that the map holds under it. -/
theorem lastValue?_entries {headers : HeaderMap} (hl : headers.Lowered) (name : String) :
    lastValue? (fun h => Text.sameIgnoringCase h.1 name) headers.entries =
      headers.get? (Text.lower name) := by
  have hfilter : headers.entries.filter (fun h => Text.sameIgnoringCase h.1 name) =
      headers.entries.filter fun e => e.1 == Text.lower name := by
    refine List.filter_congr fun e he => ?_
    rw [Text.sameIgnoringCase, hl e he]
  unfold lastValue?
  rw [hfilter]
  exact Entries.getLast?_filter_key headers.sorted _

end HeaderMap

/-! ## Receivers -/

namespace SignatureHeaders

/-- Headers are read in their order, the last one at the end. -/
theorem ofHeaders_concat (headers : HeaderList) (h : String × String) :
    ofHeaders (headers ++ [h]) = (ofHeaders headers).add h := List.foldl_append

/-- The last header with the name of the signature counts. -/
theorem signature_ofHeaders (headers : HeaderList) : (ofHeaders headers).signature =
    lastValue? (fun h => Text.sameIgnoringCase h.1 signatureHeader) headers := by
  induction headers using List.reverseRecOn with
  | nil => rfl
  | append_singleton headers h ih =>
    rw [ofHeaders_concat, lastValue?_concat, ← ih, add]
    split
    · rfl
    · split <;> rfl

/-- The last header with the name of the identifier counts. -/
theorem webhookId_ofHeaders (headers : HeaderList) : (ofHeaders headers).webhookId =
    lastValue? (fun h => Text.sameIgnoringCase h.1 idHeader) headers := by
  have hnames : Text.lower signatureHeader ≠ Text.lower idHeader := by decide
  induction headers using List.reverseRecOn with
  | nil => rfl
  | append_singleton headers h ih =>
    rw [ofHeaders_concat, lastValue?_concat, ← ih, add]
    by_cases hs : Text.sameIgnoringCase h.1 signatureHeader = true
    · -- a header of the one name has not the other
      have hid : ¬ Text.sameIgnoringCase h.1 idHeader = true := by
        rw [Text.sameIgnoringCase_iff] at hs ⊢
        exact fun hid => hnames (hs.symm.trans hid)
      rw [if_pos hs, if_neg hid]
    · rw [if_neg hs]
      split <;> rfl

end SignatureHeaders

end Webhook
