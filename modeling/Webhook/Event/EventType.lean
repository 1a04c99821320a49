/-!
# Event types

The events that an endpoint can subscribe to, in their order, and their dotted names.
-/

namespace Webhook

/-- What kind of thing has happened. -/
inductive EventType where
  /-- A savings group was created. -/
  | groupCreated
  /-- A group was changed. -/
  | groupUpdated
  /-- A group has run its course. -/
  | groupCompleted
  /-- A member joined a group. -/
  | memberJoined
  /-- A member left a group. -/
  | memberLeft
  /-- A contribution was paid. -/
  | contributionMade
  /-- A contribution could not be paid. -/
  | contributionFailed
  /-- A payout was made. -/
  | payoutCompleted
  /-- A payout could not be made. -/
  | payoutFailed
  /-- A cycle of a group began. -/
  | cycleStarted
  /-- A cycle of a group ended. -/
  | cycleEnded
  deriving DecidableEq, Repr

namespace EventType

/-- All event types, in order. -/
def all : List EventType :=
  [.groupCreated, .groupUpdated, .groupCompleted, .memberJoined, .memberLeft, .contributionMade,
   .contributionFailed, .payoutCompleted, .payoutFailed, .cycleStarted, .cycleEnded]

/-- The name of an event type on the wire. -/
def name : EventType → String
  | groupCreated => "group.created"
  | groupUpdated => "group.updated"
  | groupCompleted => "group.completed"
  | memberJoined => "member.joined"
  | memberLeft => "member.left"
  | contributionMade => "contribution.made"
  | contributionFailed => "contribution.failed"
  | payoutCompleted => "payout.completed"
  | payoutFailed => "payout.failed"
  | cycleStarted => "cycle.started"
  | cycleEnded => "cycle.ended"

/-- The event type with a name. -/
def ofName? (s : String) : Option EventType :=
  all.find? fun t => t.name == s

/-- The place of an event type in the order, from 0 on. -/
def index (t : EventType) : Nat := all.idxOf t

/-- Every event type is listed. -/
theorem mem_all (t : EventType) : t ∈ all := by
  cases t <;> decide

/-- The event type of a name is the one with that name. -/
theorem ofName?_name (t : EventType) : ofName? t.name = some t := by
  cases t <;> decide

end EventType

/-! ## Sets of event types -/

/-- A set of event types. -/
structure EventSet where
  /-- The members, in order. -/
  members : List EventType
  /-- The members are some of all event types, in the same order. -/
  sublist : members.Sublist EventType.all
  deriving DecidableEq

namespace EventSet

/-- The set of the event types in a list. -/
def ofList (types : List EventType) : EventSet :=
  ⟨EventType.all.filter types.contains, List.filter_sublist⟩

/-- Whether an event type is in the set. -/
def contains (s : EventSet) (t : EventType) : Bool := s.members.contains t

/-- Whether the set has no member. -/
def isEmpty (s : EventSet) : Bool := s.members.isEmpty

/-- A set contains exactly the event types of the list that it was made from. -/
theorem contains_ofList (types : List EventType) (t : EventType) :
    (ofList types).contains t = types.contains t := by
  rw [Bool.eq_iff_iff]
  simp [contains, ofList, EventType.mem_all]

end EventSet

end Webhook
