import Webhook.Proofs.Timestamp.Calendar
import Webhook.Proofs.Timestamp.Text

/-!
# Instants

With the minutes of all days counted through, a timestamp is told by its minute, its second and its
nanosecond (`eq_of_minuteNumber`). What a text says is a reading of a clock at some offset from UTC
(`Reading`), which names an instant: the minute that the clock shows, less the offset. A text is
read as the timestamp of that instant (`ofText?_eq_some_iff`), over the ends of days, months and
years. So texts with other offsets that name one instant are read as one timestamp
(`ofText?_eq_of_sameInstant`).
-/

namespace Webhook.Timestamp

/-! ## Minutes in a row -/

/-- The place of the minute of a timestamp in the row of all minutes. -/
def minuteNumber (t : Timestamp) : Int := 1440 * t.date.number + t.minute

/-- A timestamp is told by its minute, its second and its nanosecond. -/
theorem eq_of_minuteNumber {t t' : Timestamp} (h : t.minuteNumber = t'.minuteNumber)
    (hsecond : t.second = t'.second) (hnano : t.nano = t'.nano) : t = t' := by
  have hminute := t.minute_valid
  have hminute' := t'.minute_valid
  simp only [minuteNumber] at h
  -- the minute of the day is what is left over when days are counted
  have hdate : t.date = t'.date := Date.number_injective (by omega)
  rw [hdate] at h
  obtain ⟨date, minute, second, nano, _, _, _⟩ := t
  obtain ⟨date', minute', second', nano', _, _, _⟩ := t'
  obtain rfl : date = date' := hdate
  obtain rfl : minute = minute' := by dsimp only at h; omega
  obtain rfl : second = second' := hsecond
  obtain rfl : nano = nano' := hnano
  rfl

/-! ## Readings -/

/-- What a text says: what a clock shows that is ahead of UTC by some minutes. -/
structure Reading where
  /-- The day. -/
  date : Date
  /-- The hour of the day. -/
  hour : Nat
  /-- The minute of the hour. -/
  minute : Nat
  /-- The second of the minute; 60 is a leap second. -/
  second : Nat
  /-- The nanosecond of the second. -/
  nano : Nat
  /-- By how many minutes the clock is ahead of UTC. -/
  offset : Int
  /-- The day has such an hour. -/
  hour_valid : hour ≤ 23
  /-- The hour has such a minute. -/
  minute_valid : minute ≤ 59
  /-- A minute may have such a second. -/
  second_valid : second ≤ 60
  /-- A second has such a nanosecond. -/
  nano_valid : nano < 1000000000
  /-- No clock is a day ahead or behind. -/
  offset_valid : -maxOffset ≤ offset ∧ offset ≤ maxOffset

namespace Reading

/-- The place of the minute that a reading names in the row of all minutes of UTC. -/
def minuteNumber (r : Reading) : Int :=
  1440 * r.date.number + (60 * r.hour + r.minute : Nat) - r.offset

/-- Whether a timestamp is at the instant that a reading names. -/
def Names (r : Reading) (t : Timestamp) : Prop :=
  t.minuteNumber = r.minuteNumber ∧ t.second = r.second ∧ t.nano = r.nano

/-- A reading names one timestamp at most. -/
theorem Names.unique {r : Reading} {t t' : Timestamp} (h : r.Names t) (h' : r.Names t') : t = t' :=
  eq_of_minuteNumber (h.1.trans h'.1.symm) (h.2.1.trans h'.2.1.symm) (h.2.2.trans h'.2.2.symm)

/-- A reading becomes the timestamp that it names. -/
theorem names_of_ofReading? {r : Reading} {t : Timestamp}
    (h : ofReading? r.date (60 * r.hour + r.minute) r.second r.nano r.offset = some t) :
    r.Names t := by
  have hmax : maxOffset = 1439 := rfl
  unfold ofReading? at h
  split at h
  next =>
    dsimp only at h
    -- the day before in UTC, the day after, and the same day
    split at h
    next =>
      cases h
      refine ⟨?_, rfl, rfl⟩
      simp only [Timestamp.minuteNumber, minuteNumber, Date.number_prev]
      omega
    next =>
      split at h
      next =>
        cases h
        refine ⟨?_, rfl, rfl⟩
        simp only [Timestamp.minuteNumber, minuteNumber, Date.number_next]
        omega
      next =>
        cases h
        refine ⟨?_, rfl, rfl⟩
        simp only [Timestamp.minuteNumber, minuteNumber]
        omega
  next => cases h

/-- Every reading names a timestamp, which it becomes. -/
theorem exists_names (r : Reading) : ∃ t, r.Names t ∧
    ofReading? r.date (60 * r.hour + r.minute) r.second r.nano r.offset = some t := by
  have hhour := r.hour_valid
  have hminute := r.minute_valid
  have hvalid : 60 * r.hour + r.minute < 1440 ∧ r.second ≤ 60 ∧ r.nano < 1000000000 ∧
      -maxOffset ≤ r.offset ∧ r.offset ≤ maxOffset :=
    ⟨by omega, r.second_valid, r.nano_valid, r.offset_valid⟩
  -- the parts of a reading are in range, so that none of the checks fails
  obtain ⟨t, ht⟩ : ∃ t,
      ofReading? r.date (60 * r.hour + r.minute) r.second r.nano r.offset = some t := by
    unfold ofReading?
    rw [dif_pos hvalid]
    dsimp only
    split
    · exact ⟨_, rfl⟩
    · split
      · exact ⟨_, rfl⟩
      · exact ⟨_, rfl⟩
  exact ⟨t, names_of_ofReading? ht, ht⟩

end Reading

/-! ## The texts of a reading -/

/-- Digits of a fixed number that write a number. -/
def SpellsNumber (count : Nat) (ds : List Char) (n : Nat) : Prop :=
  ds.length = count ∧ (∀ c ∈ ds, c.isDigit = true) ∧ Nat.ofDigitChars 10 ds 0 = n

/-- Characters that write a fraction of a second: nothing, or a point and digits, of which nine
count. -/
inductive SpellsFraction : List Char → Nat → Prop where
  /-- Nothing. -/
  | none : SpellsFraction [] 0
  /-- A point and digits. -/
  | some {ds : List Char} (hne : ds ≠ []) (hds : ∀ c ∈ ds, c.isDigit = true) :
    SpellsFraction ('.' :: ds) (Nat.ofDigitChars 10 ((ds ++ List.replicate 9 '0').take 9) 0)

/-- Characters that write an offset from UTC. -/
inductive SpellsOffset : List Char → Int → Prop where
  /-- The letter for UTC itself. -/
  | utc {c : Char} (hc : c = 'Z' ∨ c = 'z') : SpellsOffset [c] 0
  /-- Hours and minutes ahead of UTC. -/
  | ahead {hs ms : List Char} {hours minutes : Nat} (hhours : SpellsNumber 2 hs hours)
    (hminutes : SpellsNumber 2 ms minutes) (hvalid : minutes ≤ 59) :
    SpellsOffset ('+' :: (hs ++ ':' :: ms)) (60 * hours + minutes : Nat)
  /-- Hours and minutes behind UTC. -/
  | behind {c : Char} {hs ms : List Char} {hours minutes : Nat} (hc : c = '-' ∨ c = '\u2212')
    (hhours : SpellsNumber 2 hs hours) (hminutes : SpellsNumber 2 ms minutes)
    (hvalid : minutes ≤ 59) :
    SpellsOffset (c :: (hs ++ ':' :: ms)) (-(60 * hours + minutes : Nat))

/-- Characters that write a reading. -/
inductive SpellsReading : List Char → Reading → Prop where
  /-- Date, time of day, fraction and offset, with marks between them. -/
  | mk {r : Reading} {years months days hours minutes seconds fraction offset : List Char}
    {separator : Char} {year : Nat} (hyear : SpellsNumber 4 years year)
    (hdate : r.date.year = year) (hmonth : SpellsNumber 2 months r.date.month)
    (hday : SpellsNumber 2 days r.date.day)
    (hseparator : separator = 'T' ∨ separator = 't' ∨ separator = ' ')
    (hhour : SpellsNumber 2 hours r.hour) (hminute : SpellsNumber 2 minutes r.minute)
    (hsecond : SpellsNumber 2 seconds r.second) (hfraction : SpellsFraction fraction r.nano)
    (hoffset : SpellsOffset offset r.offset) :
    SpellsReading (years ++ '-' :: (months ++ '-' :: (days ++ separator :: (hours ++
      ':' :: (minutes ++ ':' :: (seconds ++ (fraction ++ offset))))))) r

/-- A number is read off the front exactly where so many digits spell it. -/
theorem digits?_eq_some_iff {count n : Nat} {cs rest : List Char} :
    digits? count cs = some (n, rest) ↔ ∃ ds, SpellsNumber count ds n ∧ cs = ds ++ rest := by
  constructor
  · intro h
    simp only [digits?, number?] at h
    split at h
    · cases h
    next hlength =>
      split at h
      next hall =>
        obtain ⟨rfl, rfl⟩ : Nat.ofDigitChars 10 (cs.take count) 0 = n ∧ cs.drop count = rest := by
          simpa using h
        refine ⟨cs.take count, ⟨?_, List.all_eq_true.1 hall, rfl⟩, (List.take_append_drop _ _).symm⟩
        -- the digits that were taken are not fewer than asked for, and never more
        have hle : (cs.take count).length ≤ count := List.length_take_le _ _
        omega
      next => cases h
  · rintro ⟨ds, ⟨hlength, hds, rfl⟩, rfl⟩
    have hall : ds.all Char.isDigit = true := List.all_eq_true.2 hds
    rw [digits?, List.take_left' hlength, List.drop_left' hlength, if_neg (by omega), number?,
      if_pos hall]
    rfl

/-- A mark is passed exactly where it stands. -/
theorem mark?_eq_some_iff {mark : Char} {cs rest : List Char} :
    mark? mark cs = some rest ↔ cs = mark :: rest := by
  cases cs with
  | nil => simp [mark?]
  | cons c cs => simp [mark?]

/-- What separates date and time is passed exactly where one of its spellings stands. -/
theorem separator?_eq_some_iff {cs rest : List Char} :
    separator? cs = some rest ↔ ∃ c, (c = 'T' ∨ c = 't' ∨ c = ' ') ∧ cs = c :: rest := by
  cases cs with
  | nil => simp [separator?]
  | cons c cs => simp [separator?, and_comm]

/-- The minutes of an offset are read exactly where hours and minutes of two digits each are the
whole rest. -/
theorem offsetMinutes?_eq_some_iff {cs : List Char} {offset : Int} :
    offsetMinutes? cs = some offset ↔ ∃ hs ms hours minutes, SpellsNumber 2 hs hours ∧
      SpellsNumber 2 ms minutes ∧ minutes ≤ 59 ∧ cs = hs ++ ':' :: ms ∧
      offset = (60 * hours + minutes : Nat) := by
  constructor
  · intro h
    obtain ⟨⟨hours, cs₁⟩, hhours, h⟩ := Option.bind_eq_some_iff.1 h
    obtain ⟨cs₂, hcolon, h⟩ := Option.bind_eq_some_iff.1 h
    obtain ⟨⟨minutes, cs₃⟩, hminutes, hoffset⟩ := Option.bind_eq_some_iff.1 h
    obtain ⟨hs, hspellsHours, rfl⟩ := digits?_eq_some_iff.1 hhours
    obtain rfl := mark?_eq_some_iff.1 hcolon
    obtain ⟨ms, hspellsMinutes, rfl⟩ := digits?_eq_some_iff.1 hminutes
    -- a result there is only if the minutes are in range and nothing is left
    have hvalid : minutes ≤ 59 ∧ cs₃ = [] := by
      by_contra hinvalid
      simp [hinvalid] at hoffset
    obtain ⟨hvalid, rfl⟩ := hvalid
    refine ⟨hs, ms, hours, minutes, hspellsHours, hspellsMinutes, hvalid, ?_, ?_⟩
    · rw [List.append_nil]
    · simpa [hvalid, eq_comm] using hoffset
  · rintro ⟨hs, ms, hours, minutes, hhours, hminutes, hvalid, rfl, rfl⟩
    refine Option.bind_eq_some_iff.2 ⟨_, digits?_eq_some_iff.2 ⟨hs, hhours, rfl⟩, ?_⟩
    refine Option.bind_eq_some_iff.2 ⟨_, mark?_eq_some_iff.2 rfl, ?_⟩
    refine Option.bind_eq_some_iff.2
      ⟨(minutes, []), digits?_eq_some_iff.2 ⟨ms, hminutes, (List.append_nil ms).symm⟩, ?_⟩
    simp [hvalid]

/-- An offset is read exactly where it is spelled. -/
theorem offset?_eq_some_iff {cs : List Char} {offset : Int} :
    offset? cs = some offset ↔ SpellsOffset cs offset := by
  constructor
  · intro h
    -- one case for each spelling, and one for texts that are none
    unfold offset? at h
    split at h
    · cases h
      exact .utc (.inl rfl)
    · cases h
      exact .utc (.inr rfl)
    next cs =>
      obtain ⟨hs, ms, hours, minutes, hhours, hminutes, hvalid, rfl, rfl⟩ :=
        offsetMinutes?_eq_some_iff.1 h
      exact .ahead hhours hminutes hvalid
    next c cs _ _ _ =>
      split at h
      next hc =>
        obtain ⟨behind, hbehind, rfl⟩ := Option.map_eq_some_iff.1 h
        obtain ⟨hs, ms, hours, minutes, hhours, hminutes, hvalid, rfl, rfl⟩ :=
          offsetMinutes?_eq_some_iff.1 hbehind
        exact .behind hc hhours hminutes hvalid
      next => cases h
    · cases h
  · intro h
    cases h with
    | utc hc =>
      rcases hc with rfl | rfl
      · rfl
      · rfl
    | @ahead hs ms hours minutes hhours hminutes hvalid =>
      exact offsetMinutes?_eq_some_iff.2
        ⟨hs, ms, hours, minutes, hhours, hminutes, hvalid, rfl, rfl⟩
    | @behind c hs ms hours minutes hc hhours hminutes hvalid =>
      have hbehind := offsetMinutes?_eq_some_iff.2
        ⟨hs, ms, hours, minutes, hhours, hminutes, hvalid, rfl, rfl⟩
      rcases hc with rfl | rfl
      · simp [offset?, hbehind]
      · simp [offset?, hbehind]

/-- An offset begins with no digit and no point. -/
theorem SpellsOffset.head {cs : List Char} {offset : Int} (h : SpellsOffset cs offset) :
    Text.NoDigitFirst cs ∧ '.' ∉ cs.head? := by
  cases h with
  | utc hc => rcases hc with rfl | rfl <;> simp [Text.NoDigitFirst]
  | ahead => simp [Text.NoDigitFirst]
  | behind hc => rcases hc with rfl | rfl <;> simp [Text.NoDigitFirst]

/-- A fraction is read, whatever follows it but a digit or a point. -/
theorem fraction?_append {fraction rest : List Char} {nano : Nat}
    (h : SpellsFraction fraction nano) (hrest : Text.NoDigitFirst rest ∧ '.' ∉ rest.head?) :
    fraction? (fraction ++ rest) = some (nano, rest) := by
  cases h with
  | none =>
    cases rest with
    | nil => rfl
    | cons c rest =>
      have hc : c ≠ '.' := by simpa using hrest.2
      rw [List.nil_append, fraction?]
      exact fun cs hcs => hc (List.cons.inj hcs).1
  | @some ds hne hds =>
    -- the run of digits ends where the fraction does
    obtain ⟨d, ds, rfl⟩ := List.exists_cons_of_ne_nil hne
    have hrun := Text.takeWhile_isDigit_append hds hrest.1
    have hafter := Text.dropWhile_isDigit_append hds hrest.1
    rw [List.cons_append, fraction?, hrun, hafter]

/-- What is read as a fraction is one that stands at the front, or none at all. -/
theorem of_fraction? {cs rest : List Char} {nano : Nat} (h : fraction? cs = some (nano, rest)) :
    ∃ fraction, SpellsFraction fraction nano ∧ cs = fraction ++ rest := by
  unfold fraction? at h
  split at h
  next cs =>
    have hsplit : cs.takeWhile Char.isDigit ++ cs.dropWhile Char.isDigit = cs :=
      List.takeWhile_append_dropWhile
    have hdigits : ∀ c ∈ cs.takeWhile Char.isDigit, c.isDigit = true :=
      fun c hc => List.all_eq_true.1 List.all_takeWhile c hc
    -- a point without digits is no fraction
    cases hrun : cs.takeWhile Char.isDigit with
    | nil =>
      rw [hrun] at h
      cases h
    | cons d ds =>
      rw [hrun] at h hsplit hdigits
      obtain ⟨rfl, rfl⟩ := Prod.mk.inj (Option.some.inj h)
      exact ⟨'.' :: d :: ds, .some (by simp) hdigits, congrArg ('.' :: ·) hsplit.symm⟩
  next =>
    obtain ⟨rfl, rfl⟩ := Prod.mk.inj (Option.some.inj h)
    exact ⟨[], .none, rfl⟩

/-- Numbers give a date exactly if they are its own. -/
theorem ofNumbers?_eq_some_iff {year : Int} {month day : Nat} {d : Date} :
    Date.ofNumbers? year month day = some d ↔ d.year = year ∧ d.month = month ∧ d.day = day := by
  constructor
  · intro h
    unfold Date.ofNumbers? at h
    split at h
    · cases h
      exact ⟨rfl, rfl, rfl⟩
    · cases h
  · rintro ⟨hyear, rfl, rfl⟩
    exact ofNumbers?_self d hyear.symm

/-- Characters that are read write a reading. -/
theorem exists_reading_of_ofChars? {cs : List Char} {t : Timestamp} (h : ofChars? cs = some t) :
    ∃ r, SpellsReading cs r ∧ r.Names t := by
  obtain ⟨⟨year, cs₁⟩, hyear, h⟩ := Option.bind_eq_some_iff.1 h
  obtain ⟨cs₂, hmark₁, h⟩ := Option.bind_eq_some_iff.1 h
  obtain ⟨⟨month, cs₃⟩, hmonth, h⟩ := Option.bind_eq_some_iff.1 h
  obtain ⟨cs₄, hmark₂, h⟩ := Option.bind_eq_some_iff.1 h
  obtain ⟨⟨day, cs₅⟩, hday, h⟩ := Option.bind_eq_some_iff.1 h
  obtain ⟨cs₆, hseparator, h⟩ := Option.bind_eq_some_iff.1 h
  obtain ⟨⟨hour, cs₇⟩, hhour, h⟩ := Option.bind_eq_some_iff.1 h
  obtain ⟨cs₈, hmark₃, h⟩ := Option.bind_eq_some_iff.1 h
  obtain ⟨⟨minute, cs₉⟩, hminute, h⟩ := Option.bind_eq_some_iff.1 h
  obtain ⟨cs₁₀, hmark₄, h⟩ := Option.bind_eq_some_iff.1 h
  obtain ⟨⟨second, cs₁₁⟩, hsecond, h⟩ := Option.bind_eq_some_iff.1 h
  obtain ⟨⟨nano, cs₁₂⟩, hfraction, h⟩ := Option.bind_eq_some_iff.1 h
  obtain ⟨offset, hoffset, h⟩ := Option.bind_eq_some_iff.1 h
  -- the last of these facts keeps its own name, since the parts of the text are put in below
  obtain ⟨date, hdate, hreading⟩ := Option.bind_eq_some_iff.1 h
  obtain ⟨hyears, rfl, rfl⟩ := ofNumbers?_eq_some_iff.1 hdate
  split at hreading
  · cases hreading
  next hclock =>
    -- what is read is valid, since it becomes a timestamp
    have hvalid : 60 * hour + minute < 1440 ∧ second ≤ 60 ∧ nano < 1000000000 ∧
        -maxOffset ≤ offset ∧ offset ≤ maxOffset := by
      by_contra hinvalid
      rw [ofReading?, dif_neg hinvalid] at hreading
      cases hreading
    simp only [Bool.or_eq_true, decide_eq_true_eq, not_or, Nat.not_lt] at hclock
    let r : Reading := ⟨date, hour, minute, second, nano, offset, hclock.1, hclock.2,
      hvalid.2.1, hvalid.2.2.1, hvalid.2.2.2⟩
    refine ⟨r, ?_, r.names_of_ofReading? hreading⟩
    -- the parts of the text, from left to right
    obtain ⟨years, hdigits, rfl⟩ := digits?_eq_some_iff.1 hyear
    obtain rfl := mark?_eq_some_iff.1 hmark₁
    obtain ⟨months, hmonths, rfl⟩ := digits?_eq_some_iff.1 hmonth
    obtain rfl := mark?_eq_some_iff.1 hmark₂
    obtain ⟨days, hdays, rfl⟩ := digits?_eq_some_iff.1 hday
    obtain ⟨separator, hmark, rfl⟩ := separator?_eq_some_iff.1 hseparator
    obtain ⟨hours, hhours, rfl⟩ := digits?_eq_some_iff.1 hhour
    obtain rfl := mark?_eq_some_iff.1 hmark₃
    obtain ⟨minutes, hminutes, rfl⟩ := digits?_eq_some_iff.1 hminute
    obtain rfl := mark?_eq_some_iff.1 hmark₄
    obtain ⟨seconds, hseconds, rfl⟩ := digits?_eq_some_iff.1 hsecond
    obtain ⟨fraction, hnanos, rfl⟩ := of_fraction? hfraction
    exact .mk hdigits hyears hmonths hdays hmark hhours hminutes hseconds hnanos
      (offset?_eq_some_iff.1 hoffset)

/-- Characters that write a reading are read as the timestamp that it names. -/
theorem SpellsReading.ofChars?_eq {cs : List Char} {r : Reading} {t : Timestamp}
    (hspells : SpellsReading cs r) (hnames : r.Names t) : ofChars? cs = some t := by
  obtain ⟨t', hnames', hreading⟩ := r.exists_names
  obtain rfl := hnames.unique hnames'
  have hhour := r.hour_valid
  have hminute := r.minute_valid
  -- the clock of a reading is in range
  have hclock : ¬ ((decide (23 < r.hour) || decide (59 < r.minute)) = true) := by
    simp
    omega
  cases hspells with
  | mk hyears hdate hmonths hdays hseparator hhours hminutes hseconds hfraction hoffset =>
    -- each part is read off the front, in the order in which they stand
    refine Option.bind_eq_some_iff.2 ⟨_, digits?_eq_some_iff.2 ⟨_, hyears, rfl⟩, ?_⟩
    refine Option.bind_eq_some_iff.2 ⟨_, mark?_self _ _, ?_⟩
    refine Option.bind_eq_some_iff.2 ⟨_, digits?_eq_some_iff.2 ⟨_, hmonths, rfl⟩, ?_⟩
    refine Option.bind_eq_some_iff.2 ⟨_, mark?_self _ _, ?_⟩
    refine Option.bind_eq_some_iff.2 ⟨_, digits?_eq_some_iff.2 ⟨_, hdays, rfl⟩, ?_⟩
    refine Option.bind_eq_some_iff.2
      ⟨_, separator?_eq_some_iff.2 ⟨_, hseparator, rfl⟩, ?_⟩
    refine Option.bind_eq_some_iff.2 ⟨_, digits?_eq_some_iff.2 ⟨_, hhours, rfl⟩, ?_⟩
    refine Option.bind_eq_some_iff.2 ⟨_, mark?_self _ _, ?_⟩
    refine Option.bind_eq_some_iff.2 ⟨_, digits?_eq_some_iff.2 ⟨_, hminutes, rfl⟩, ?_⟩
    refine Option.bind_eq_some_iff.2 ⟨_, mark?_self _ _, ?_⟩
    refine Option.bind_eq_some_iff.2 ⟨_, digits?_eq_some_iff.2 ⟨_, hseconds, rfl⟩, ?_⟩
    refine Option.bind_eq_some_iff.2 ⟨_, fraction?_append hfraction hoffset.head, ?_⟩
    refine Option.bind_eq_some_iff.2 ⟨_, offset?_eq_some_iff.2 hoffset, ?_⟩
    refine Option.bind_eq_some_iff.2
      ⟨_, ofNumbers?_eq_some_iff.2 ⟨hdate, rfl, rfl⟩, ?_⟩
    rw [if_neg hclock]
    exact hreading

/-! ## Texts of one instant -/

/-- Whether two texts name one instant, to the nanosecond: the same minute of UTC, and in it the
same second and nanosecond. -/
def SameInstant (s s' : String) : Prop :=
  ∃ r r' : Reading, SpellsReading s.toList r ∧ SpellsReading s'.toList r' ∧
    r.minuteNumber = r'.minuteNumber ∧ r.second = r'.second ∧ r.nano = r'.nano

/-- A text is read as a timestamp exactly when it writes a reading that names it. -/
theorem ofText?_eq_some_iff {s : String} {t : Timestamp} :
    ofText? s = some t ↔ ∃ r, SpellsReading s.toList r ∧ r.Names t :=
  ⟨exists_reading_of_ofChars?, fun ⟨_, hspells, hnames⟩ => hspells.ofChars?_eq hnames⟩

/-- Texts of one instant are read as one timestamp, whatever their offsets. -/
theorem ofText?_eq_of_sameInstant {s s' : String} (h : SameInstant s s') :
    ofText? s = ofText? s' := by
  obtain ⟨r, r', hs, hs', hminute, hsecond, hnano⟩ := h
  obtain ⟨t, ht, -⟩ := r.exists_names
  have ht' : r'.Names t := ⟨ht.1.trans hminute, ht.2.1.trans hsecond, ht.2.2.trans hnano⟩
  rw [ofText?_eq_some_iff.2 ⟨r, hs, ht⟩, ofText?_eq_some_iff.2 ⟨r', hs', ht'⟩]

/-- Texts that are read as one timestamp name one instant. -/
theorem sameInstant_of_ofText? {s s' : String} {t : Timestamp} (h : ofText? s = some t)
    (h' : ofText? s' = some t) : SameInstant s s' := by
  obtain ⟨r, hr, hminute, hsecond, hnano⟩ := ofText?_eq_some_iff.1 h
  obtain ⟨r', hr', hminute', hsecond', hnano'⟩ := ofText?_eq_some_iff.1 h'
  exact ⟨r, r', hr, hr', hminute.symm.trans hminute', hsecond.symm.trans hsecond',
    hnano.symm.trans hnano'⟩

end Webhook.Timestamp
