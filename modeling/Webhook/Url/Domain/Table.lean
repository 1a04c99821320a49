/-!
# Tables of characters

The tables of the Unicode standard are written as rows between spaces. A row is a sequence of
hexadecimal numbers between points; in a table of ranges it is a first and a last code point, or
one code point alone.
-/

namespace Webhook.Url.Domain

/-- The value of a lower-case hexadecimal digit. -/
def tableDigit (c : Char) : Nat :=
  if c.isDigit then c.toNat - 48 else c.toNat - 87

/-- Adds one character to rows in reverse, whose numbers are in reverse. -/
def tableStep (rows : List (List Nat)) (c : Char) : List (List Nat) :=
  match c, rows with
  | ' ', rows => [0] :: rows
  | '.', row :: rest => (0 :: row) :: rest
  | c, (n :: row) :: rest => ((16 * n + tableDigit c) :: row) :: rest
  | _, rows => rows

/-- The rows of a line. -/
def lineRows (line : String) : List (List Nat) :=
  (line.toList.foldl tableStep [[0]]).reverse.map List.reverse

/-- The rows of a table. -/
def tableRows (lines : List String) : List (List Nat) := lines.flatMap lineRows

/-- The ranges of a table. -/
def tableRanges (lines : List String) : List (Nat × Nat) :=
  (tableRows lines).filterMap fun
    | [first] => some (first, first)
    | [first, last] => some (first, last)
    | _ => none

/-- Whether a code point is in one of some ranges. -/
def inRanges (ranges : List (Nat × Nat)) (code : Nat) : Bool :=
  ranges.any fun range => range.1 ≤ code && code ≤ range.2

end Webhook.Url.Domain
