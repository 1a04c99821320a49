import Webhook.Json.Value
import Webhook.Number.Shortest
import Webhook.Text.Hex

/-!
# Writing JSON

The compact form of a value: no space between tokens, members in the order of the value, and in
strings only those characters escaped that must be. Integers are written in full. A
double-precision number is written with its shortest digits: positionally, with at least one digit
on either side of the point, from `10^-5` up to `10^16`, and otherwise with one digit before the
point and a signed exponent.
-/

namespace Webhook.Json

/-! ## Strings -/

/-- A character inside a string literal. -/
def escapeChar (c : Char) : List Char :=
  match c with
  | '"' => ['\\', '"']
  | '\\' => ['\\', '\\']
  | '\x08' => ['\\', 'b']
  | '\x0c' => ['\\', 'f']
  | '\n' => ['\\', 'n']
  | '\r' => ['\\', 'r']
  | '\t' => ['\\', 't']
  | c =>
    if c.toNat < 0x20 then
      ['\\', 'u', '0', '0', Text.Hex.digit (c.toNat / 16), Text.Hex.digit (c.toNat % 16)]
    else [c]

/-- A string literal. -/
def printString (s : String) : List Char :=
  '"' :: s.toList.flatMap escapeChar ++ ['"']

/-! ## Numbers -/

/-- The digits of a natural number. -/
def printNat (n : Nat) : List Char := Nat.toDigits 10 n

/-- An integer, with a minus sign where it is negative. -/
def printInt (i : Int) : List Char :=
  if i < 0 then '-' :: printNat i.natAbs else printNat i.natAbs

/-- A decimal other than zero in positional form; `point` digits stand before the point, or that
many zeros after it when `point` is negative. -/
def printPositional (ds : List Char) (point : Int) : List Char :=
  if point ≤ 0 then '0' :: '.' :: List.replicate (-point).toNat '0' ++ ds
  else if (ds.length : Int) ≤ point then
    ds ++ List.replicate (point.toNat - ds.length) '0' ++ ['.', '0']
  else ds.take point.toNat ++ '.' :: ds.drop point.toNat

/-- A decimal other than zero in scientific form, with the exponent of its first digit. -/
def printScientific (ds : List Char) (exponent : Int) : List Char :=
  let mantissa := match ds with
    | d :: rest@(_ :: _) => d :: '.' :: rest
    | _ => ds
  let sign := if exponent < 0 then '-' else '+'
  mantissa ++ 'e' :: sign :: printNat exponent.natAbs

/-- A decimal, in the form that its size asks for. -/
def printDecimal (d : Decimal) : List Char :=
  if d.digits = 0 then ['0', '.', '0']
  else
    let ds := printNat d.digits
    let point := (ds.length : Int) + d.exponent
    if -4 ≤ point ∧ point ≤ 16 then printPositional ds point else printScientific ds (point - 1)

/-- A double-precision number. -/
def printFloat (x : Binary64) : List Char :=
  let magnitude := if x.code = 0 then ⟨0, 0⟩ else Binary64.shortest x.code
  if x.negative then '-' :: printDecimal magnitude else printDecimal magnitude

/-- A number. -/
def Number.print : Number → List Char
  | .integer i => printInt i.val
  | .float x => printFloat x

/-! ## Values -/

/-- Sequences with commas between them. -/
def commaSeparated : List (List Char) → List Char
  | [] => []
  | [x] => x
  | x :: rest => x ++ ',' :: commaSeparated rest

/-- An array of printed items. -/
def bracketed (items : List (List Char)) : List Char :=
  '[' :: commaSeparated items ++ [']']

/-- An object of keys and printed values. -/
def braced (members : List (String × List Char)) : List Char :=
  '{' :: commaSeparated (members.map fun m => printString m.1 ++ ':' :: m.2) ++ ['}']

namespace Value

mutual

/-- The text of a value. -/
def print : Value → List Char
  | .null => "null".toList
  | .bool true => "true".toList
  | .bool false => "false".toList
  | .number n => n.print
  | .string s => printString s
  | .array items => bracketed (printItems items)
  | .object members => braced (printMembers members)

/-- The texts of the items of an array. -/
def printItems : List Value → List (List Char)
  | [] => []
  | v :: vs => v.print :: printItems vs

/-- The keys of the members of an object with the texts of their values. -/
def printMembers : List (String × Value) → List (String × List Char)
  | [] => []
  | (k, v) :: vs => (k, v.print) :: printMembers vs

end

/-- The text of a value. -/
def toText (v : Value) : String := String.ofList v.print

end Value

end Webhook.Json
