import Webhook.Delivery.Basic

/-!
# Reports for readers

A channel keeps the newest reports, up to its capacity, and counts all. A reader has a position in
the sequence of all reports. What it has not read is still there, or has been dropped in favour of
newer reports; then the reader is told how many it has lost.
-/

namespace Webhook

/-- The newest reports, and the number of all. -/
structure ReportChannel where
  /-- How many reports are kept. -/
  capacity : Nat
  /-- The number of reports sent so far. -/
  total : Nat
  /-- The reports that are kept, oldest first. -/
  recent : List Report

namespace ReportChannel

/-- The least power of two that is not below a number. -/
def powerOfTwoFrom (n : Nat) : Nat :=
  if n ≤ 1 then 1 else Nat.pow 2 (Nat.log2 (n - 1) + 1)

/-- An empty channel that is to keep at least this many reports, and at least one. -/
def create (capacity : Nat) : ReportChannel := ⟨powerOfTwoFrom capacity, 0, []⟩

/-- The channel after one more report. -/
def send (c : ReportChannel) (r : Report) : ReportChannel :=
  let reports := c.recent ++ [r]
  { c with total := c.total + 1, recent := reports.drop (reports.length - c.capacity) }

/-- What a reader at a position gets: how many reports it has lost, and those that are kept. -/
def read (c : ReportChannel) (position : Nat) : Nat × List Report :=
  let unread := c.total - position
  (unread - c.recent.length, c.recent.drop (c.recent.length - unread))

end ReportChannel

end Webhook
