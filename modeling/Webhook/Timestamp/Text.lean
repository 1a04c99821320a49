import Webhook.Timestamp.Basic

/-!
# Timestamps as text

Date, time of day and offset from UTC in one text. Reading takes a four-digit year, `T`, `t` or a
space between date and time, a fraction of any length of which nine digits count, and `Z`, `z` or an
offset in hours and minutes whose minus sign may also be U+2212. Writing is in UTC with three digits
of fraction, cut and not rounded; a year that four digits cannot hold is written with its sign.
-/

namespace Webhook.Timestamp

/-! ## Reading -/

/-- The number that decimal digits spell; `none` where there is another character. -/
def number? (ds : List Char) : Option Nat :=
  if ds.all Char.isDigit then some (Nat.ofDigitChars 10 ds 0) else none

/-- A number of exactly `count` digits in front, and what follows it. -/
def digits? (count : Nat) (cs : List Char) : Option (Nat × List Char) := do
  let ds := cs.take count
  if ds.length < count then none
  return (← number? ds, cs.drop count)

/-- What follows a given character. -/
def mark? (mark : Char) : List Char → Option (List Char)
  | c :: cs => if c = mark then some cs else none
  | [] => none

/-- What follows the character between date and time. -/
def separator? : List Char → Option (List Char)
  | c :: cs => if c = 'T' ∨ c = 't' ∨ c = ' ' then some cs else none
  | [] => none

/-- The nanoseconds of a fraction, zero if there is none, and what follows it. -/
def fraction? : List Char → Option (Nat × List Char)
  | '.' :: cs =>
    match cs.takeWhile Char.isDigit with
    | [] => none
    | ds => some (Nat.ofDigitChars 10 ((ds ++ List.replicate 9 '0').take 9) 0,
        cs.dropWhile Char.isDigit)
  | cs => some (0, cs)

/-- The hours and minutes of an offset, which end the text. -/
def offsetMinutes? (cs : List Char) : Option Int := do
  let (hours, cs) ← digits? 2 cs
  let (minutes, cs) ← digits? 2 (← mark? ':' cs)
  if minutes ≤ 59 && cs.isEmpty then some (60 * hours + minutes : Nat) else none

/-- The offset from UTC, in minutes, that ends a text. -/
def offset? : List Char → Option Int
  | ['Z'] | ['z'] => some 0
  | '+' :: cs => offsetMinutes? cs
  | c :: cs => if c = '-' ∨ c = '\u2212' then (offsetMinutes? cs).map (-·) else none
  | [] => none

/-- The timestamp that the characters spell. -/
def ofChars? (cs : List Char) : Option Timestamp := do
  let (year, cs) ← digits? 4 cs
  let (month, cs) ← digits? 2 (← mark? '-' cs)
  let (day, cs) ← digits? 2 (← mark? '-' cs)
  let (hour, cs) ← digits? 2 (← separator? cs)
  let (minute, cs) ← digits? 2 (← mark? ':' cs)
  let (second, cs) ← digits? 2 (← mark? ':' cs)
  let (nano, cs) ← fraction? cs
  let offset ← offset? cs
  let date ← Date.ofNumbers? year month day
  if 23 < hour || 59 < minute then none
  ofReading? date (60 * hour + minute) second nano offset

/-- The timestamp that a text spells. -/
def ofText? (s : String) : Option Timestamp :=
  ofChars? s.toList

/-! ## Writing -/

/-- The digits of a number, filled up with zeros in front to at least `count`. -/
def padded (count n : Nat) : List Char :=
  let ds := Nat.toDigits 10 n
  List.replicate (count - ds.length) '0' ++ ds

/-- A year: four digits, with a sign and as many digits as needed outside of 0 to 9999. -/
def printYear (year : Int) : List Char :=
  if year < 0 then '-' :: padded 4 year.natAbs
  else if 9999 < year then '+' :: padded 4 year.natAbs
  else padded 4 year.natAbs

/-- The text of a timestamp. -/
def print (t : Timestamp) : List Char :=
  printYear t.date.year ++ '-' :: padded 2 t.date.month ++ '-' :: padded 2 t.date.day ++
    'T' :: padded 2 (t.minute / 60) ++ ':' :: padded 2 (t.minute % 60) ++
    ':' :: padded 2 t.second ++ '.' :: padded 3 (t.nano / 1000000) ++ ['Z']

/-- The text of a timestamp. -/
def toText (t : Timestamp) : String := String.ofList t.print

end Webhook.Timestamp
