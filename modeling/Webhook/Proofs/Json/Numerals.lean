import Webhook.Proofs.Json.Spelling
import Webhook.Proofs.Text.Digits

/-!
# Printed numbers

Every printed number is a numeral of the grammar, and its text spells that numeral alone. An integer
is read back as itself. A double-precision number is written with a fraction or an exponent, so that
it is never read as an integer; which number its digits are read as is another question
(`rereadFloat`).
-/

namespace Webhook.Json

open Text (NoDigitFirst isDigit_of_mem_zeros)

/-! ## Digits -/

/-- The characters are decimal digits, at least one. -/
structure IsDigits (ds : List Char) : Prop where
  ne_nil : ds ≠ []
  isDigit : ∀ c ∈ ds, c.isDigit = true

/-- A natural number is printed in digits. -/
theorem isDigits_printNat (n : Nat) : IsDigits (printNat n) where
  ne_nil := Nat.toDigits_ne_nil
  isDigit _ hc := Nat.isDigit_of_mem_toDigits (by decide) (by decide) hc

/-- Only zero is written with a zero in front. -/
theorem eq_zero_of_head?_printNat {n : Nat} (h : (printNat n).head? = some '0') : n = 0 := by
  induction n using Nat.strongRecOn with
  | ind n ih =>
    unfold printNat at h ih
    rw [Nat.toDigits_eq_if (by decide)] at h
    split at h
    · simpa using h
    next hn =>
      -- the digits without the last have the same digit in front
      rw [List.head?_append_of_ne_nil _ Nat.toDigits_ne_nil] at h
      have := ih (n / 10) (by omega) h
      omega

/-- Digits followed by further digits are digits. -/
theorem IsDigits.append {ds es : List Char} (hd : IsDigits ds) (he : ∀ c ∈ es, c.isDigit = true) :
    IsDigits (ds ++ es) where
  ne_nil := by simp [hd.ne_nil]
  isDigit c hc := (List.mem_append.1 hc).elim (hd.isDigit c) (he c)

namespace Numeral

/-- The run of digits in front ends where there is no digit. -/
theorem digits_append {ds rest : List Char} (hd : ∀ c ∈ ds, c.isDigit = true)
    (hr : NoDigitFirst rest) : digits (ds ++ rest) = (ds, rest) := by
  rw [digits, Text.takeWhile_isDigit_append hd hr, Text.dropWhile_isDigit_append hd hr]

/-! ## The text of a numeral -/

/-- The text of a fraction. -/
def printFraction : Option (List Char) → List Char
  | none => []
  | some ds => '.' :: ds

/-- The text of an exponent, with a sign in any case. -/
def printExponent : Option Exponent → List Char
  | none => []
  | some e => 'e' :: (if e.negative then '-' else '+') :: e.digits

/-- The text of a numeral, with the sign of its exponent in any case. -/
def print (n : Numeral) : List Char :=
  (if n.negative then ['-'] else []) ++
    (n.whole ++ (printFraction n.fraction ++ printExponent n.exponent))

/-- The numeral follows the grammar of numbers. -/
structure IsValid (n : Numeral) : Prop where
  whole : IsDigits n.whole
  noLeadingZero : n.whole.head? = some '0' → n.whole = ['0']
  fraction : ∀ ds ∈ n.fraction, IsDigits ds
  exponent : ∀ e ∈ n.exponent, IsDigits e.digits

variable {n : Numeral}

/-- An exponent does not begin with a digit. -/
theorem noDigitFirst_printExponent (e : Option Exponent) : NoDigitFirst (printExponent e) := by
  cases e with
  | none => simp [NoDigitFirst, printExponent]
  | some e => simp [NoDigitFirst, printExponent]

/-- What comes after the whole part does not begin with a digit. -/
theorem noDigitFirst_printFraction (f : Option (List Char)) (e : Option Exponent) :
    NoDigitFirst (printFraction f ++ printExponent e) := by
  cases f with
  | none => exact noDigitFirst_printExponent e
  | some ds => simp [NoDigitFirst, printFraction]

/-- A printed exponent is read back. -/
theorem exponent?_printExponent (h : n.IsValid) :
    exponent? (printExponent n.exponent) = some n.exponent := by
  cases he : n.exponent with
  | none => rfl
  | some e =>
    obtain ⟨negative, ds⟩ := e
    have hd : IsDigits ds := h.exponent _ he
    have hend : NoDigitFirst [] := by simp [NoDigitFirst]
    have hall := digits_append hd.isDigit hend
    rw [List.append_nil] at hall
    obtain ⟨d, ds, rfl⟩ := List.exists_cons_of_ne_nil hd.ne_nil
    cases negative <;> simp [printExponent, exponent?, exponentSign, sign, hall]

/-- A printed fraction is read back, and leaves the exponent. -/
theorem fraction?_printFraction (h : n.IsValid) :
    fraction? (printFraction n.fraction ++ printExponent n.exponent) =
      some (n.fraction, printExponent n.exponent) := by
  cases hf : n.fraction with
  | none =>
    cases he : n.exponent with
    | none => rfl
    | some e => rfl
  | some ds =>
    have hd : IsDigits ds := h.fraction _ hf
    -- the digits of the fraction end where the exponent begins
    have hall := digits_append hd.isDigit (noDigitFirst_printExponent n.exponent)
    obtain ⟨d, ds, rfl⟩ := List.exists_cons_of_ne_nil hd.ne_nil
    rw [List.cons_append] at hall
    simp [printFraction, fraction?, hall]

/-- The digits of the whole part are read up to what is no digit. -/
theorem whole?_append (h : n.IsValid) {rest : List Char} (hr : NoDigitFirst rest) :
    whole? (n.whole ++ rest) = some (n.whole, rest) := by
  have hall := digits_append h.whole.isDigit hr
  have hzero := h.noLeadingZero
  have hne := h.whole.ne_nil
  unfold whole?
  rw [hall]
  split
  next heq => exact absurd (Prod.mk.inj heq).1 hne
  next heq =>
    -- a zero with a digit after it is no valid whole part
    rw [(Prod.mk.inj heq).1] at hzero
    simp at hzero
  · rfl

/-- The whole part begins with a digit. -/
theorem whole_cons (h : n.IsValid) : ∃ d ds, n.whole = d :: ds ∧ d.isDigit = true := by
  obtain ⟨d, ds, hw⟩ := List.exists_cons_of_ne_nil h.whole.ne_nil
  exact ⟨d, ds, hw, h.whole.isDigit d (by simp [hw])⟩

/-- The text of a valid numeral is read as that numeral. -/
theorem ofChars?_print (h : n.IsValid) : ofChars? n.print = some n := by
  have hwhole := whole?_append h (noDigitFirst_printFraction n.fraction n.exponent)
  have hsign : sign n.print =
      (n.negative, n.whole ++ (printFraction n.fraction ++ printExponent n.exponent)) := by
    unfold print
    cases hn : n.negative with
    | true => rfl
    | false =>
      -- what comes first is a digit, and no sign
      obtain ⟨d, ds, hw, hd⟩ := whole_cons h
      have hminus : d ≠ '-' := by
        rintro rfl
        exact absurd hd (by decide)
      simp [hw, sign, hminus]
  simp [ofChars?, hsign, hwhole, fraction?_printFraction h, exponent?_printExponent h]

/-! ## Words -/

/-- A digit is part of a word. -/
theorem isWordChar_of_isDigit {c : Char} (h : c.isDigit = true) : Lexer.isWordChar c = true := by
  simp [Lexer.isWordChar, Char.isAlphanum, h]

/-- A printed numeral is one word. -/
theorem isWordChar_of_mem_print (h : n.IsValid) {c : Char} (hc : c ∈ n.print) :
    Lexer.isWordChar c = true := by
  have hfraction : c ∈ printFraction n.fraction → Lexer.isWordChar c = true := by
    cases hf : n.fraction with
    | none => simp [printFraction]
    | some ds =>
      intro hc
      rcases List.mem_cons.1 hc with rfl | hc
      · decide
      · exact isWordChar_of_isDigit ((h.fraction ds hf).isDigit c hc)
  have hexponent : c ∈ printExponent n.exponent → Lexer.isWordChar c = true := by
    cases he : n.exponent with
    | none => simp [printExponent]
    | some e =>
      intro hc
      rcases List.mem_cons.1 hc with rfl | hc
      · decide
      rcases List.mem_cons.1 hc with rfl | hc
      · cases e.negative <;> decide
      · exact isWordChar_of_isDigit ((h.exponent e he).isDigit c hc)
  simp only [print, List.mem_append] at hc
  rcases hc with hc | hc | hc | hc
  · cases hn : n.negative <;> simp [hn] at hc
    subst hc
    decide
  · exact isWordChar_of_isDigit (h.whole.isDigit c hc)
  · exact hfraction hc
  · exact hexponent hc

/-- A valid numeral begins with a minus sign or a digit, which no literal does. -/
theorem head?_print (h : n.IsValid) :
    ∃ c cs, n.print = c :: cs ∧ (c = '-' ∨ c.isDigit = true) := by
  obtain ⟨d, ds, hw, hd⟩ := whole_cons h
  cases hn : n.negative with
  | true =>
    refine ⟨'-', n.whole ++ (printFraction n.fraction ++ printExponent n.exponent), ?_, .inl rfl⟩
    rw [print, hn]
    rfl
  | false =>
    refine ⟨d, ds ++ (printFraction n.fraction ++ printExponent n.exponent), ?_, .inr hd⟩
    rw [print, hn, hw]
    rfl

/-- The word of a printed numeral is read as that number. -/
theorem ofWord?_print (h : n.IsValid) : Token.ofWord? n.print = some (.number n) := by
  obtain ⟨c, cs, hp, hc⟩ := head?_print h
  -- a word that begins with a letter is none that begins with a sign or a digit
  have hne : ∀ first rest, first ≠ '-' ∧ first.isDigit = false → n.print ≠ first :: rest := by
    rintro first rest ⟨hminus, hdigit⟩ heq
    rw [hp] at heq
    obtain ⟨rfl, -⟩ := List.cons.inj heq
    rcases hc with rfl | hc
    · exact hminus rfl
    · rw [hc] at hdigit
      cases hdigit
  have hnull : n.print ≠ "null".toList := hne _ _ (by decide)
  have htrue : n.print ≠ "true".toList := hne _ _ (by decide)
  have hfalse : n.print ≠ "false".toList := hne _ _ (by decide)
  rw [Token.ofWord?, if_neg hnull, if_neg htrue, if_neg hfalse, ofChars?_print h]
  rfl

end Numeral

/-- The text of a valid numeral spells it. -/
theorem Spells.number {n : Numeral} (h : n.IsValid) : Spells n.print (.number n) := by
  have hne : n.print ≠ [] := by
    obtain ⟨c, cs, hp, -⟩ := Numeral.head?_print h
    simp [hp]
  have hword := List.all_eq_true.2 fun _ hc => Numeral.isWordChar_of_mem_print h hc
  exact scans_word (Numeral.ofWord?_print h) hne hword

/-! ## Integers -/

/-- The numeral that an integer is written as. -/
def intNumeral (i : Int) : Numeral := ⟨i < 0, printNat i.natAbs, none, none⟩

/-- The numeral of an integer is valid. -/
theorem isValid_intNumeral (i : Int) : (intNumeral i).IsValid where
  whole := isDigits_printNat _
  noLeadingZero h := by
    have hzero : i.natAbs = 0 := eq_zero_of_head?_printNat h
    simp [intNumeral, hzero, printNat]
  fraction ds hd := by cases hd
  exponent e he := by cases he

/-- An integer is printed as its numeral. -/
theorem printInt_eq (i : Int) : printInt i = (intNumeral i).print := by
  unfold printInt Numeral.print
  split
  next h => simp [intNumeral, h, Numeral.printFraction, Numeral.printExponent]
  next h => simp [intNumeral, h, Numeral.printFraction, Numeral.printExponent]

/-- An integer is read back as itself. -/
theorem ofNumeral?_intNumeral (i : Integer) :
    Number.ofNumeral? (intNumeral i.val) = some (.integer i) := by
  have hisInteger : (intNumeral i.val).isInteger = true := rfl
  have hnatural : (intNumeral i.val).natural = i.val.natAbs := Nat.ofDigitChars_ten_toDigits
  have hint : Integer.ofInt? i.val = some i := dif_pos ⟨i.lower, i.upper⟩
  have hinteger : (intNumeral i.val).integer? = some i := by
    rw [Numeral.integer?, hisInteger, hnatural]
    -- the sign is read apart from the digits
    by_cases h : i.val < 0
    · have hnegative : (intNumeral i.val).negative = true := decide_eq_true h
      have habs : -(i.val.natAbs : Int) = i.val := by omega
      rw [hnegative, if_neg (by decide), if_neg (by decide), if_neg (by omega), habs, hint]
    · have hnegative : (intNumeral i.val).negative = false := decide_eq_false h
      have habs : (i.val.natAbs : Int) = i.val := by omega
      rw [hnegative, if_neg (by decide), if_pos (by decide), habs, hint]
  rw [Number.ofNumeral?, hinteger]

/-! ## Double-precision numbers -/

/-- The numeral of digits in positional form. -/
def positionalNumeral (negative : Bool) (ds : List Char) (point : Int) : Numeral :=
  if point ≤ 0 then ⟨negative, ['0'], some (List.replicate (-point).toNat '0' ++ ds), none⟩
  else if (ds.length : Int) ≤ point then
    ⟨negative, ds ++ List.replicate (point.toNat - ds.length) '0', some ['0'], none⟩
  else ⟨negative, ds.take point.toNat, some (ds.drop point.toNat), none⟩

/-- The numeral of digits in scientific form. -/
def scientificNumeral (negative : Bool) (ds : List Char) (exponent : Int) : Numeral :=
  ⟨negative, ds.take 1, if ds.length ≤ 1 then none else some (ds.drop 1),
    some ⟨exponent < 0, printNat exponent.natAbs⟩⟩

/-- The numeral of a decimal with a sign. -/
def decimalNumeral (negative : Bool) (d : Decimal) : Numeral :=
  if d.digits = 0 then ⟨negative, ['0'], some ['0'], none⟩
  else
    let ds := printNat d.digits
    let point := (ds.length : Int) + d.exponent
    if -4 ≤ point ∧ point ≤ 16 then positionalNumeral negative ds point
    else scientificNumeral negative ds (point - 1)

/-- The decimal that the magnitude of a number is written as. -/
def floatDecimal (x : Binary64) : Decimal :=
  if x.code = 0 then ⟨0, 0⟩ else Binary64.shortest x.code

/-- The numeral that a number is written as. -/
def floatNumeral (x : Binary64) : Numeral := decimalNumeral x.negative (floatDecimal x)

section Printing

variable {ds : List Char} {negative : Bool}

/-- The numeral with its point among the digits is printed as they are. -/
theorem print_positionalNumeral (point : Int) : (positionalNumeral negative ds point).print =
    (if negative then ['-'] else []) ++ printPositional ds point := by
  unfold positionalNumeral printPositional
  split
  · simp [Numeral.print, Numeral.printFraction, Numeral.printExponent]
  · split
    · simp [Numeral.print, Numeral.printFraction, Numeral.printExponent]
    · simp [Numeral.print, Numeral.printFraction, Numeral.printExponent]

/-- The numeral with an exponent is printed as its digits with the exponent. -/
theorem print_scientificNumeral (hne : ds ≠ []) (exponent : Int) :
    (scientificNumeral negative ds exponent).print =
      (if negative then ['-'] else []) ++ printScientific ds exponent := by
  unfold scientificNumeral printScientific
  match ds with
  | [] => exact absurd rfl hne
  | [d] => simp [Numeral.print, Numeral.printFraction, Numeral.printExponent]
  | d :: e :: rest => simp [Numeral.print, Numeral.printFraction, Numeral.printExponent]

/-- The numeral of a decimal is printed as the decimal. -/
theorem print_decimalNumeral (negative : Bool) (d : Decimal) : (decimalNumeral negative d).print =
    (if negative then ['-'] else []) ++ printDecimal d := by
  unfold decimalNumeral printDecimal
  split
  · simp [Numeral.print, Numeral.printFraction, Numeral.printExponent]
  · dsimp only
    split
    · exact print_positionalNumeral _
    · exact print_scientificNumeral Nat.toDigits_ne_nil _

/-- The text of a number is that of its numeral. -/
theorem printFloat_eq (x : Binary64) : printFloat x = (floatNumeral x).print := by
  rw [floatNumeral, print_decimalNumeral]
  unfold printFloat floatDecimal
  cases x.negative <;> rfl

/-! The digits of a decimal other than zero do not begin with a zero. -/

/-- The numeral with its point among the digits is valid, if they do not begin with a zero. -/
theorem isValid_positionalNumeral (hd : IsDigits ds) (hz : ds.head? ≠ some '0') (point : Int) :
    (positionalNumeral negative ds point).IsValid := by
  have hzero := isDigits_printNat 0
  have hnone : ∀ e ∈ (none : Option Exponent), IsDigits e.digits := by simp
  unfold positionalNumeral
  split
  · -- all digits stand after the point, perhaps after zeros
    refine ⟨hzero, fun _ => rfl, ?_, hnone⟩
    rintro _ ⟨⟩
    refine ⟨by simp [hd.ne_nil], fun c hc => ?_⟩
    exact (List.mem_append.1 hc).elim isDigit_of_mem_zeros (hd.isDigit c)
  next hpoint =>
    split
    · -- all digits stand before the point, perhaps with zeros after them
      refine ⟨hd.append fun c hc => isDigit_of_mem_zeros hc, fun h => ?_, ?_, hnone⟩
      · rw [List.head?_append_of_ne_nil _ hd.ne_nil] at h
        exact absurd h hz
      · rintro _ ⟨⟩
        exact hzero
    next hlength =>
      -- the point stands between two digits
      have htake : ds.take point.toNat ≠ [] := by
        simp only [ne_eq, List.take_eq_nil_iff, hd.ne_nil, or_false]
        omega
      have hdrop : ds.drop point.toNat ≠ [] := by
        simp only [ne_eq, List.drop_eq_nil_iff]
        omega
      refine ⟨⟨htake, fun c hc => hd.isDigit c (List.mem_of_mem_take hc)⟩, fun h => ?_, ?_, hnone⟩
      · rw [List.head?_take, if_neg (by omega)] at h
        exact absurd h hz
      · rintro _ ⟨⟩
        exact ⟨hdrop, fun c hc => hd.isDigit c (List.mem_of_mem_drop hc)⟩

/-- The numeral with an exponent is valid, if the digits do not begin with a zero. -/
theorem isValid_scientificNumeral (hd : IsDigits ds) (hz : ds.head? ≠ some '0') (exponent : Int) :
    (scientificNumeral negative ds exponent).IsValid := by
  have htake : ds.take 1 ≠ [] := by simp [hd.ne_nil]
  unfold scientificNumeral
  refine ⟨⟨htake, fun c hc => hd.isDigit c (List.mem_of_mem_take hc)⟩, fun h => ?_, ?_, ?_⟩
  · -- the whole part is the first digit, which is not zero
    rw [List.head?_take, if_neg (by decide)] at h
    exact absurd h hz
  · intro fraction hf
    split at hf
    · cases hf
    next hlength =>
      cases hf
      have hdrop : ds.drop 1 ≠ [] := by
        simp only [ne_eq, List.drop_eq_nil_iff]
        exact hlength
      exact ⟨hdrop, fun c hc => hd.isDigit c (List.mem_of_mem_drop hc)⟩
  · rintro _ ⟨⟩
    exact isDigits_printNat _

/-- The numeral of a float is valid. -/
theorem isValid_floatNumeral (x : Binary64) : (floatNumeral x).IsValid := by
  unfold floatNumeral decimalNumeral
  split
  · have hzero := isDigits_printNat 0
    refine ⟨hzero, fun _ => rfl, ?_, by simp⟩
    rintro _ ⟨⟩
    exact hzero
  next hne =>
    have hd := isDigits_printNat (floatDecimal x).digits
    -- the digits of a number that is not zero do not begin with one
    have hz : (printNat (floatDecimal x).digits).head? ≠ some '0' :=
      fun h => hne (eq_zero_of_head?_printNat h)
    dsimp only
    split
    · exact isValid_positionalNumeral hd hz _
    · exact isValid_scientificNumeral hd hz _

/-- A number is written with a fraction or an exponent. -/
theorem isInteger_floatNumeral (x : Binary64) : (floatNumeral x).isInteger = false := by
  unfold floatNumeral decimalNumeral positionalNumeral scientificNumeral
  dsimp only
  repeat' split
  all_goals simp [Numeral.isInteger]

end Printing

/-! ## Numbers read back -/

/-- The numeral that a number is written as. -/
def Number.numeral : Number → Numeral
  | .integer i => intNumeral i.val
  | .float x => floatNumeral x

/-- A printed number spells its numeral. -/
theorem Number.spells (n : Number) : Spells n.print (.number n.numeral) := by
  cases n with
  | integer i =>
    rw [Number.print, printInt_eq]
    exact .number (isValid_intNumeral i.val)
  | float x =>
    rw [Number.print, printFloat_eq]
    exact .number (isValid_floatNumeral x)

/-- The double-precision number that the text of one is read as, unless it is out of range. -/
def rereadFloat (x : Binary64) : Option Binary64 := (floatNumeral x).float?

/-- An integer is read back from its numeral, and a float as what it is reread as. -/
theorem Number.ofNumeral?_numeral (n : Number) : Number.ofNumeral? n.numeral =
    match n with
    | .integer i => some (.integer i)
    | .float x => (rereadFloat x).map .float := by
  cases n with
  | integer i => exact ofNumeral?_intNumeral i
  | float x =>
    have hinteger : (floatNumeral x).integer? = none := by
      rw [Numeral.integer?, isInteger_floatNumeral]
      rfl
    rw [Number.numeral, Number.ofNumeral?, hinteger]
    rfl

end Webhook.Json
