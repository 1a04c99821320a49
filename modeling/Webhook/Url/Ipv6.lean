import Webhook.Url.Ipv4

/-!
# IPv6 addresses in urls

Eight groups of up to four hexadecimal digits between colons; one double colon may stand for
groups of zero, and a dotted IPv4 address for the last two groups. An address is written with the
longest run of two or more zero groups, the first of equals, as a double colon.
-/

namespace Webhook.Url.Ipv6

open Ipv4 (pieces)

/-- A group of hexadecimal digits. -/
def group? (cs : List Char) : Option Nat :=
  if cs.isEmpty || 4 < cs.length then none else Ipv4.number? 16 cs

/-- A decimal byte without leading zeros. -/
def byte? (cs : List Char) : Option Nat :=
  match cs with
  | [] => none
  | '0' :: _ :: _ => none
  | _ => (Ipv4.number? 10 cs).filter (· ≤ 255)

/-- The two groups of a dotted address. -/
def dottedTail? (cs : List Char) : Option (List Nat) := do
  match ← (pieces '.' cs).mapM byte? with
  | [a, b, c, d] => some [256 * a + b, 256 * c + d]
  | _ => none

/-- The groups of a sequence of pieces, of which the last may be dotted. -/
def groups? : List (List Char) → Option (List Nat)
  | [] => some []
  | [last] => if last.contains '.' then dottedTail? last else (group? last).map fun n => [n]
  | piece :: rest => do return (← group? piece) :: (← groups? rest)

/-- The groups on one side of a double colon, perhaps none. -/
def side? (cs : List Char) : Option (List Nat) :=
  if cs.isEmpty then some [] else groups? (pieces ':' cs)

/-- What stands on either side of the first double colon, if there is one. -/
def splitDouble : List Char → Option (List Char × List Char)
  | ':' :: ':' :: cs => some ([], cs)
  | c :: cs => (splitDouble cs).map fun (before, after) => (c :: before, after)
  | [] => none

/-- The eight groups of an address. -/
def parse? (cs : List Char) : Option (List Nat) :=
  match splitDouble cs with
  | none => (groups? (pieces ':' cs)).filter (·.length = 8)
  | some (before, after) => do
    if before.contains '.' then none
    let left ← side? before
    let right ← side? after
    let count := left.length + right.length
    if 7 < count then none
    return left ++ List.replicate (8 - count) 0 ++ right

/-- The number of zero groups in front. -/
def zeroRun (groups : List Nat) : Nat := (groups.takeWhile (· == 0)).length

/-- The start and the length of the longest run of zero groups, the first of equals, for groups
that start at place `start`. -/
def longestZeroRun (start : Nat) : List Nat → Nat × Nat
  | [] => (start, 0)
  | g :: gs =>
    let here := zeroRun (g :: gs)
    let later := longestZeroRun (start + 1) gs
    if here < later.2 then later else (start, here)

/-- Groups in hexadecimal with colons between them. -/
def printGroups (groups : List Nat) : List Char :=
  [':'].intercalate (groups.map (Nat.toDigits 16))

/-- An address with its longest run of zeros as a double colon. -/
def print (groups : List Nat) : List Char :=
  let (start, length) := longestZeroRun 0 groups
  if length < 2 then printGroups groups
  else printGroups (groups.take start) ++ [':', ':'] ++ printGroups (groups.drop (start + length))

end Webhook.Url.Ipv6
