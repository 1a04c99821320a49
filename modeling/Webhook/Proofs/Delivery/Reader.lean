import Mathlib.Logic.Relation
import Webhook.Delivery.ReportChannel

/-!
# What a reader of reports gets

A reader takes from the channel one thing at a time: the next report, or, where that has been
dropped in favour of newer ones, the number of those it has lost. `ReportReader.Follows` says that
the reports it has got and those it has lost are all between its start and its position. Reading
keeps this (`receive?`), and so do further reports. `ReportChannel.read` is what a reader
gets that goes on until nothing is left (`receives_read`).
-/

namespace Webhook

/-! ## The channel -/

namespace ReportChannel

/-- The channel has these reports, and keeps the newest of them. -/
structure Keeps (c : ReportChannel) (sent : List Report) : Prop where
  total : c.total = sent.length
  recent : c.recent = sent.drop (sent.length - c.capacity)

/-- The position of the oldest report that is kept. -/
def oldest (c : ReportChannel) : Nat := c.total - c.recent.length

variable {c : ReportChannel} {sent : List Report}

/-- A new channel keeps nothing. -/
theorem keeps_create (capacity : Nat) : (create capacity).Keeps [] :=
  ⟨rfl, List.drop_nil.symm⟩

/-- A report that is sent is kept, if only until there are too many after it. -/
theorem Keeps.send (hc : c.Keeps sent) (r : Report) : (c.send r).Keeps (sent ++ [r]) := by
  obtain ⟨htotal, hrecent⟩ := hc
  refine ⟨by simp [ReportChannel.send, htotal], ?_⟩
  have hdrop : c.recent ++ [r] = (sent ++ [r]).drop (sent.length - c.capacity) := by
    rw [hrecent, List.drop_append_of_le_length (Nat.sub_le ..)]
  simp only [ReportChannel.send, hdrop, List.drop_drop, List.length_drop, List.length_append,
    List.length_singleton]
  congr 1
  omega

/-- All but the most recent reports are gone, up to the capacity. -/
theorem Keeps.oldest_eq (hc : c.Keeps sent) : c.oldest = sent.length - c.capacity := by
  rw [oldest, hc.total, hc.recent, List.length_drop]
  omega

/-- No more is kept than was sent. -/
theorem Keeps.length_recent_le (hc : c.Keeps sent) : c.recent.length ≤ c.total := by
  rw [hc.total, hc.recent, List.length_drop]
  omega

/-- What is kept at a position is what was sent there. -/
theorem Keeps.getElem?_recent (hc : c.Keeps sent) {position : Nat} (hp : c.oldest ≤ position) :
    c.recent[position - c.oldest]? = sent[position]? := by
  rw [hc.recent, List.getElem?_drop, ← hc.oldest_eq, Nat.add_sub_cancel' hp]

end ReportChannel

/-! ## Readers -/

/-- One who reads the reports of a channel. -/
structure ReportReader where
  /-- How many of all reports the reader has passed. -/
  position : Nat
  /-- The reports that it has got, oldest first. -/
  got : List Report
  /-- How many reports it was told that it has lost. -/
  lost : Nat

namespace ReportReader

/-- A reader that begins with the reports to come. -/
def subscribe (c : ReportChannel) : ReportReader := ⟨c.total, [], 0⟩

/-- The reader after it has taken one thing from the channel, unless there is nothing to take. -/
def receive? (c : ReportChannel) (x : ReportReader) : Option ReportReader :=
  if x.position < c.oldest then
    some { x with position := c.oldest, lost := x.lost + (c.oldest - x.position) }
  else
    c.recent[x.position - c.oldest]?.map fun r =>
      { x with position := x.position + 1, got := x.got ++ [r] }

/-- All between a position and that of the reader was got or lost, and what was got is in order. -/
structure Follows (x : ReportReader) (sent : List Report) (start : Nat) : Prop where
  start_le : start ≤ x.position
  le_length : x.position ≤ sent.length
  count : start + x.got.length + x.lost = x.position
  sublist : x.got.Sublist ((sent.take x.position).drop start)

variable {c : ReportChannel} {x y : ReportReader} {sent : List Report} {start : Nat}

/-- One who subscribes begins after all that was sent. -/
theorem follows_subscribe (hc : c.Keeps sent) : (subscribe c).Follows sent sent.length := by
  refine ⟨?_, ?_, ?_, List.nil_sublist _⟩ <;> simp [subscribe, hc.total]

/-- Further reports are none that the reader has passed. -/
theorem Follows.append (hx : x.Follows sent start) (more : List Report) :
    x.Follows (sent ++ more) start := by
  refine ⟨hx.start_le, ?_, hx.count, ?_⟩
  · have := hx.le_length
    rw [List.length_append]
    omega
  · rw [List.take_append_of_le_length hx.le_length]
    exact hx.sublist

/-- A reader that receives gets the next report, or is told how many are gone. -/
theorem Follows.receive (hx : x.Follows sent start) (hc : c.Keeps sent)
    (h : x.receive? c = some y) : y.Follows sent start := by
  have hstart := hx.start_le
  have hcount := hx.count
  -- the reader has fallen behind what is kept, or gets the report at its position
  unfold receive? at h
  split at h
  next hlag =>
    cases h
    refine ⟨by simp only; omega, ?_, by simp only; omega, ?_⟩
    · rw [hc.oldest_eq]
      exact Nat.sub_le ..
    · -- the reader has passed more, and got nothing of it
      refine hx.sublist.trans ?_
      exact (List.take_prefix_take_left (Nat.le_of_lt hlag)).sublist.drop start
  next hlag =>
    rw [hc.getElem?_recent (Nat.le_of_not_lt hlag)] at h
    obtain ⟨r, hr, rfl⟩ := Option.map_eq_some_iff.1 h
    obtain ⟨hi, hr⟩ := List.getElem?_eq_some_iff.1 hr
    refine ⟨by simp only; omega, hi, ?_, ?_⟩
    · simp only [List.length_append, List.length_singleton]
      omega
    · rw [List.take_succ_eq_append_getElem hi, hr, List.drop_append_of_le_length
        (by rw [List.length_take]; omega)]
      exact hx.sublist.append_right [r]

/-- When nothing is left to take, the reader has passed all. -/
theorem Follows.position_eq (hx : x.Follows sent start) (hc : c.Keeps sent)
    (h : x.receive? c = none) : x.position = sent.length := by
  unfold receive? at h
  split at h
  · cases h
  next hlag =>
    rw [hc.getElem?_recent (Nat.le_of_not_lt hlag), Option.map_eq_none_iff,
      List.getElem?_eq_none_iff] at h
    exact Nat.le_antisymm hx.le_length h

/-! ## Reading all -/

/-- A reader that takes one thing after another becomes another one. -/
def Receives (c : ReportChannel) : ReportReader → ReportReader → Prop :=
  Relation.ReflTransGen fun x y => x.receive? c = some y

/-- A reader that has lost nothing more gets all that is kept from its position on. -/
theorem receives_recent (hp : c.oldest ≤ x.position) (ht : x.position ≤ c.total)
    (hr : c.recent.length ≤ c.total) :
    Receives c x ⟨c.total, x.got ++ c.recent.drop (x.position - c.oldest), x.lost⟩ := by
  obtain ⟨position, got, lost⟩ := x
  simp only at hp ht ⊢
  have hlength : c.oldest + c.recent.length = c.total := Nat.sub_add_cancel hr
  -- on the number of reports that are left
  induction hn : c.total - position generalizing position got with
  | zero =>
    have hend : position = c.total := by omega
    have hnil : c.recent.drop (position - c.oldest) = [] := List.drop_of_length_le (by omega)
    rw [hnil, List.append_nil, hend]
    exact .refl
  | succ n ih =>
    have hi : position - c.oldest < c.recent.length := by omega
    have hnext : receive? c ⟨position, got, lost⟩ =
        some ⟨position + 1, got ++ [c.recent[position - c.oldest]], lost⟩ := by
      simp only [receive?, if_neg (Nat.not_lt.2 hp), List.getElem?_eq_getElem hi, Option.map_some]
    refine .head hnext ?_
    rw [List.drop_eq_getElem_cons hi]
    have := ih (position + 1) (got ++ [c.recent[position - c.oldest]]) (by omega) (by omega)
      (by omega)
    rwa [Nat.sub_add_comm hp, List.append_assoc] at this

/-- To read all is to take one thing after another until nothing is left. -/
theorem receives_read (hc : c.Keeps sent) (ht : x.position ≤ c.total) :
    Receives c x
      ⟨c.total, x.got ++ (c.read x.position).2, x.lost + (c.read x.position).1⟩ := by
  have hr := hc.length_recent_le
  have hlength : c.oldest + c.recent.length = c.total := Nat.sub_add_cancel hr
  by_cases hlag : x.position < c.oldest
  · -- the reader is first told what it has lost
    have hnext : receive? c x = some { x with
        position := c.oldest, lost := x.lost + (c.oldest - x.position) } := if_pos hlag
    refine .head hnext ?_
    have hrest : Receives c ⟨c.oldest, x.got, x.lost + (c.oldest - x.position)⟩ _ :=
      receives_recent (Nat.le_refl _) (Nat.sub_le ..) hr
    have hlost : c.total - x.position - c.recent.length = c.oldest - x.position := by omega
    have hnone : c.recent.length - (c.total - x.position) = 0 := by omega
    rw [Nat.sub_self] at hrest
    rwa [ReportChannel.read, hlost, hnone]
  · -- nothing of what is new to the reader is gone
    have hrest := receives_recent (Nat.le_of_not_lt hlag) ht hr
    have hlost : c.total - x.position - c.recent.length = 0 := by omega
    have hfirst : c.recent.length - (c.total - x.position) = x.position - c.oldest := by omega
    simpa only [ReportChannel.read, hlost, hfirst, Nat.add_zero] using hrest

end ReportReader

end Webhook
