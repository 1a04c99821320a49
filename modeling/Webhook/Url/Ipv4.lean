import Webhook.Url.Percent

/-!
# IPv4 addresses in urls

A host whose last piece between dots is a number must be an address. A number is decimal, octal
after a zero, or hexadecimal after `0x`; the last one fills the bytes that are left.
-/

namespace Webhook.Url.Ipv4

/-- The pieces of a sequence between occurrences of a character. -/
def pieces (mark : Char) : List Char → List (List Char)
  | [] => [[]]
  | c :: cs =>
    if c = mark then [] :: pieces mark cs
    else
      match pieces mark cs with
      | piece :: rest => (c :: piece) :: rest
      | [] => [[c]]

/-- The number that hexadecimal digits spell in a base up to sixteen, if all are of the base. -/
def number? (base : Nat) (cs : List Char) : Option Nat :=
  cs.foldlM (fun n c => do
    let d ← hexValue? c
    if d < base then some (base * n + d) else none) 0

/-- The number of a piece: its base shows in its first characters, and no digits are zero. -/
def piece? : List Char → Option Nat
  | [] => none
  | '0' :: 'x' :: cs | '0' :: 'X' :: cs => number? 16 cs
  | '0' :: c :: cs => number? 8 (c :: cs)
  | cs => number? 10 cs

/-- The pieces between dots without an empty one at the end. -/
def dotted (cs : List Char) : List (List Char) :=
  let ps := pieces '.' cs
  if ps.getLast? = some [] then ps.dropLast else ps

/-- Whether a host must be an address: its last piece is digits or another number. -/
def endsInNumber (cs : List Char) : Bool :=
  match (dotted cs).getLast? with
  | none => false
  | some last => (!last.isEmpty && last.all Char.isDigit) || (piece? last).isSome

/-- The address of a host that must be one: the last number fills the bytes that the others
leave. -/
def parse? (cs : List Char) : Option Nat := do
  let numbers ← (dotted cs).mapM piece?
  let last ← numbers.getLast?
  let bytes := numbers.dropLast
  let room := Nat.pow 256 (4 - bytes.length)
  if 3 < bytes.length || bytes.any (255 < ·) || room ≤ last then none
  return bytes.foldl (fun n b => 256 * n + b) 0 * room + last

/-- An address as four decimal numbers. -/
def print (address : Nat) : List Char :=
  Nat.toDigits 10 (address / 16777216) ++ '.' :: Nat.toDigits 10 (address / 65536 % 256) ++
    '.' :: Nat.toDigits 10 (address / 256 % 256) ++ '.' :: Nat.toDigits 10 (address % 256)

end Webhook.Url.Ipv4
