/-!
# Punycode

The form in ASCII of a label: its characters of ASCII, and after a hyphen the others, as steps
through all places and code points from one insertion to the next. A step is written in digits of
varying thresholds, which adapt to the size of the steps.
-/

namespace Webhook.Url.Domain.Punycode

/-- The digit of a number below 36. -/
def digit (n : Nat) : Char :=
  if n < 26 then Char.ofNat (0x61 + n) else Char.ofNat (0x30 + (n - 26))

/-- The value of a digit of either case. -/
def value? (c : Char) : Option Nat :=
  if 'a' ≤ c ∧ c ≤ 'z' then some (c.toNat - 0x61)
  else if 'A' ≤ c ∧ c ≤ 'Z' then some (c.toNat - 0x41)
  else if c.isDigit then some (c.toNat - 48 + 26)
  else none

/-- The threshold of the digit at place `k`, counted in steps of 36. -/
def threshold (k bias : Nat) : Nat := min 26 (max 1 (k - bias))

/-- Halves a step by 35 until it is small, and counts 36 for each time. -/
def shrink (delta k : Nat) : Nat × Nat :=
  if 455 < delta then shrink (delta / 35) (k + 36) else (delta, k)
termination_by delta
decreasing_by exact Nat.div_lt_self (by omega) (by decide)

/-- The bias after a step, the `count`-th character being inserted. -/
def adapt (delta count : Nat) (first : Bool) : Nat :=
  let delta := if first then delta / 700 else delta / 2
  let (delta, k) := shrink (delta + delta / count) 0
  k + 36 * delta / (delta + 38)

/-! ## Writing -/

/-- The digits of a step, from place `k` on. -/
def stepDigits (bias k q : Nat) : List Char :=
  let t := threshold k bias
  if q < t then [digit q]
  else digit (t + (q - t) % (36 - t)) :: stepDigits bias (k + 36) ((q - t) / (36 - t))
termination_by q
decreasing_by
  have h1 : 1 ≤ threshold k bias := by unfold threshold; omega
  have h2 := Nat.div_le_self (q - threshold k bias) (36 - threshold k bias)
  omega

/-- The state of the writer. -/
structure Writer where
  /-- The digits so far. -/
  output : List Char
  /-- The step since the last insertion. -/
  delta : Nat
  /-- The bias. -/
  bias : Nat
  /-- How many characters are written. -/
  count : Nat

/-- One character of the label, while the characters with code point `n` are written. -/
def Writer.step (basic n : Nat) (w : Writer) (c : Char) : Writer :=
  if c.toNat < n then { w with delta := w.delta + 1 }
  else if c.toNat = n then
    { output := w.output ++ stepDigits w.bias 36 w.delta
      delta := 0
      bias := adapt w.delta (w.count + 1) (w.count = basic)
      count := w.count + 1 }
  else w

/-- Writes the characters with each of some code points in increasing order; `n` is the first one
that the step has not passed. -/
def Writer.run (label : List Char) (basic : Nat) : Nat → List Nat → Writer → Writer
  | _, [], w => w
  | n, code :: rest, w =>
    let w := { w with delta := w.delta + (code - n) * (w.count + 1) }
    let w := label.foldl (Writer.step basic code) w
    Writer.run label basic (code + 1) rest { w with delta := w.delta + 1 }

/-- The form of a label in ASCII, without the mark in front that tells it from other labels. -/
def encode (label : List Char) : List Char :=
  let basic := label.filter (·.toNat < 0x80)
  let codes := (label.map Char.toNat).filter (0x80 ≤ ·)
  let sorted := (codes.mergeSort (· ≤ ·)).eraseDups
  let start : Writer := ⟨[], 0, 72, basic.length⟩
  (if basic.isEmpty then [] else basic ++ ['-']) ++
    (Writer.run label basic.length 0x80 sorted start).output

/-! ## Reading -/

/-- The state of the reader. -/
structure Reader where
  /-- The characters so far, in their order. -/
  output : List Nat
  /-- The code point of the next insertion, before the step that leads there. -/
  code : Nat
  /-- The place of the next insertion, before the step that leads there. -/
  place : Nat
  /-- The bias. -/
  bias : Nat
  /-- The step so far. -/
  delta : Nat
  /-- The weight of the next digit. -/
  weight : Nat
  /-- The place of the next digit, in steps of 36. -/
  k : Nat

/-- One digit: it ends a step when it is below the threshold. -/
def Reader.step (basic : Nat) (r : Reader) (c : Char) : Option Reader := do
  let d ← value? c
  let t := threshold r.k r.bias
  let delta := r.delta + d * r.weight
  if d < t then
    -- the step leads through all places of each code point before the next code point
    let count := r.output.length + 1
    let place := r.place + delta
    let code := r.code + place / count
    if !code.isValidChar then none
    some {
      output := r.output.take (place % count) ++ code :: r.output.drop (place % count)
      code, place := place % count + 1
      bias := adapt delta count (r.output.length = basic)
      delta := 0, weight := 1, k := 36 }
  else some { r with delta := delta, weight := r.weight * (36 - t), k := r.k + 36 }

/-- The label of a form in ASCII; a text with other characters is none. -/
def decode? (cs : List Char) : Option (List Char) := do
  let extended := (cs.reverse.takeWhile (· != '-')).reverse
  let basic := (cs.take (cs.length - extended.length)).dropLast
  if basic.any (0x80 ≤ ·.toNat) then none
  let start : Reader := ⟨basic.map Char.toNat, 0x80, 0, 72, 0, 1, 36⟩
  let r ← extended.foldlM (Reader.step basic.length) start
  if r.k = 36 then some (r.output.map Char.ofNat) else none

end Webhook.Url.Domain.Punycode
