/-!
# Numerals

The grammar of a JSON number: an optional minus sign, whole digits without a leading zero, an
optional fraction and an optional exponent. A numeral keeps its digits, because what number it
stands for depends on who reads it (`Json/Number.lean`).
-/

namespace Webhook.Json

/-- The exponent of a numeral. -/
structure Exponent where
  /-- Whether the sign is a minus. -/
  negative : Bool
  /-- The digits, at least one. -/
  digits : List Char
  deriving DecidableEq

/-- A number as it is spelled. -/
structure Numeral where
  /-- Whether it begins with a minus sign. -/
  negative : Bool
  /-- The digits before the point, at least one. -/
  whole : List Char
  /-- The digits after the point, if there is one. -/
  fraction : Option (List Char)
  /-- The exponent, if there is one. -/
  exponent : Option Exponent
  deriving DecidableEq

namespace Numeral

/-- The longest run of digits in front, and what follows it. -/
def digits (cs : List Char) : List Char × List Char :=
  (cs.takeWhile Char.isDigit, cs.dropWhile Char.isDigit)

/-- A minus sign in front, if there is one, and what follows it. -/
def sign : List Char → Bool × List Char
  | '-' :: cs => (true, cs)
  | cs => (false, cs)

/-- The sign of an exponent: a plus sign may stand for none. -/
def exponentSign : List Char → Bool × List Char
  | '+' :: cs => (false, cs)
  | cs => sign cs

/-- The whole digits: a zero alone, or digits that begin with another one. -/
def whole? (cs : List Char) : Option (List Char × List Char) :=
  match digits cs with
  | ([], _) => none
  | ('0' :: _ :: _, _) => none
  | found => some found

/-- The fraction, if a point stands in front; the point needs a digit after it. -/
def fraction? : List Char → Option (Option (List Char) × List Char)
  | '.' :: cs =>
    match digits cs with
    | ([], _) => none
    | (ds, rest) => some (some ds, rest)
  | cs => some (none, cs)

/-- The exponent that all the characters spell, if there are any. -/
def exponent? : List Char → Option (Option Exponent)
  | [] => some none
  | c :: cs =>
    if c = 'e' ∨ c = 'E' then
      let (negative, cs) := exponentSign cs
      match digits cs with
      | ([], _) => none
      | (ds, []) => some (some ⟨negative, ds⟩)
      | (_, _ :: _) => none
    else none

/-- The numeral that the characters spell. -/
def ofChars? (cs : List Char) : Option Numeral := do
  let (negative, cs) := sign cs
  let (whole, cs) ← whole? cs
  let (fraction, cs) ← fraction? cs
  let exponent ← exponent? cs
  return ⟨negative, whole, fraction, exponent⟩

/-- The natural number that the whole digits spell. -/
def natural (n : Numeral) : Nat := Nat.ofDigitChars 10 n.whole 0

/-- Whether neither a fraction nor an exponent is written. -/
def isInteger (n : Numeral) : Bool := n.fraction.isNone && n.exponent.isNone

/-- The natural number of a numeral with whole digits only and no sign. -/
def natural? (n : Numeral) : Option Nat :=
  if n.isInteger && !n.negative then some n.natural else none

end Numeral

end Webhook.Json
