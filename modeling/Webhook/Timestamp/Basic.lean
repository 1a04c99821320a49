import Webhook.Timestamp.Calendar

/-!
# Timestamps

A moment of Coordinated Universal Time: a day, a minute of the day, and a second with its fraction
in nanoseconds. Every minute may have a second numbered 60, a leap second. A clock reading at an
offset from UTC becomes a timestamp by moving it by whole minutes, over midnight where needed.
-/

namespace Webhook

/-- A moment of Coordinated Universal Time. -/
structure Timestamp where
  /-- The day. -/
  date : Date
  /-- The minute of the day. -/
  minute : Nat
  /-- The second of the minute; 60 is a leap second. -/
  second : Nat
  /-- The nanosecond of the second. -/
  nano : Nat
  /-- The day has such a minute. -/
  minute_valid : minute < 1440
  /-- A minute may have such a second. -/
  second_valid : second ≤ 60
  /-- A second has such a nanosecond. -/
  nano_valid : nano < 1000000000
  deriving DecidableEq

namespace Timestamp

/-- The timestamp with its fraction of a second cut to whole milliseconds. -/
def truncate (t : Timestamp) : Timestamp :=
  { t with
    nano := t.nano / 1000000 * 1000000
    nano_valid := Nat.lt_of_le_of_lt (Nat.div_mul_le_self _ _) t.nano_valid }

/-- The greatest offset from UTC of a clock reading, in minutes. -/
def maxOffset : Int := 1439

/-- The timestamp of the reading of a clock that is ahead of UTC by `offset` minutes, for an offset
of less than a day. -/
def ofReading? (date : Date) (minute second nano : Nat) (offset : Int) : Option Timestamp :=
  if h : minute < 1440 ∧ second ≤ 60 ∧ nano < 1000000000 ∧
      -maxOffset ≤ offset ∧ offset ≤ maxOffset then
    let moved := (minute : Int) - offset
    if h1 : moved < 0 then
      some ⟨date.prev, (moved + 1440).toNat, second, nano, by omega, h.2.1, h.2.2.1⟩
    else if h2 : 1440 ≤ moved then
      some ⟨date.next, (moved - 1440).toNat, second, nano,
        by have := h.2.2.2.1; simp only [maxOffset] at this; omega, h.2.1, h.2.2.1⟩
    else some ⟨date, moved.toNat, second, nano, by omega, h.2.1, h.2.2.1⟩
  else none

end Timestamp

end Webhook
