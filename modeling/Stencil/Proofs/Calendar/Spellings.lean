import Stencil.Calendar.Text
import Stencil.Proofs.Calendar.Instants
import Stencil.Proofs.Text.Numerals

/-!
# Spellings of instants

What is written for an instant is read back. Each number is written in digits up to its width and
read up to there, and the readers that do not know a spelling refuse it.

* `readNumber_append` — a number is read where its digits stand
* `dateText`, `clockText`, `Instant.spelling` — dates, times, and both of an instant
* `Instant.Valid.ofText?_spelling`, `Instant.Valid.ofText?_spelling_append`,
  `Instant.ofText?_dateText` — the three ways to write an instant are read
* `Instant.Valid.format_spelling` — the pattern that writes them
-/

namespace Stencil.Calendar

/-! ## Numerals -/

/-- The digits of a number, filled up with zeros to a width. -/
def padded (width n : Nat) : List Char :=
  List.replicate (width - (Nat.toDigits 10 n).length) '0' ++ Nat.toDigits 10 n

theorem numeral_padded (width n : Nat) : Text.Numeral 10 (padded width n) n := by
  have hne : (padded width n).isEmpty = false := by simp [padded, Nat.toDigits_ne_nil]
  rw [← Text.digitsValue?_eq_some_iff (by decide), Text.digitsValue?, hne, padded,
    Text.digitsValueFrom?_replicate_zero, Text.digitsValueFrom?_toDigits]
  rfl

theorem length_padded {width n : Nat} (hwidth : 0 < width) (h : n < 10 ^ width) :
    (padded width n).length = width := by
  have := (Nat.length_toDigits_le_iff (by decide) hwidth).mpr h
  rw [padded, List.length_append, List.length_replicate]
  omega

section Numerals

variable {digits rest : List Char} {n : Nat}

theorem forall_isDigit (h : Text.Numeral 10 digits n) : ∀ c ∈ digits, c.isDigit := by
  intro c hc
  obtain ⟨_, hdigit⟩ := h.isDigit c hc
  exact hdigit.isDigit

/-- Digits are read up to the greatest width, or up to what is no digit. -/
theorem readNumber_append (h : Text.Numeral 10 digits n) {least most : Nat}
    (hleast : least ≤ digits.length) (hmost : digits.length ≤ most)
    (hrest : digits.length = most ∨ ∀ c ∈ rest.head?, c.isDigit = false) :
    readNumber least most (digits ++ rest) = some (n, rest) := by
  have htaken : ((digits ++ rest).take most).takeWhile Char.isDigit = digits := by
    rw [List.take_append, List.take_of_length_le hmost]
    refine Text.takeWhile_append_of_head (forall_isDigit h) fun c hc => ?_
    rcases hrest with hfull | hstop
    · simp [hfull] at hc
    · rw [List.head?_take] at hc
      split at hc
      · cases hc
      · exact hstop c hc
  rw [readNumber, htaken, if_neg (by omega), (Text.digitsValue?_eq_some_iff (by decide)).mpr h,
    List.drop_left]
  rfl

/-- A number of a fixed width is read. -/
theorem readNumber_padded {width : Nat} (hwidth : 0 < width) (h : n < 10 ^ width)
    (rest : List Char) : readNumber width width (padded width n ++ rest) = some (n, rest) :=
  have hlength := length_padded hwidth h
  readNumber_append (numeral_padded width n) hlength.ge hlength.le (.inl hlength)

theorem trimStart_append (h : Text.Numeral 10 digits n) {blanks : List Char}
    (hblanks : ∀ c ∈ blanks, Text.isBlank c) (rest : List Char) :
    Text.trimStart (blanks ++ (digits ++ rest)) = digits ++ rest := by
  rw [Text.trimStart, List.dropWhile_append_of_pos hblanks]
  cases hdigits : digits with
  | nil => exact absurd hdigits h.ne_nil
  | cons c cs =>
    have hc : c.isDigit := forall_isDigit h c (by simp [hdigits])
    exact Text.trimStart_cons_of_not_blank (Text.isBlank_of_isDigit hc) _

/-- A number of two digits is read, also behind white space. -/
theorem readShortNumber_padded (h : n < 100) (blanks : List Char)
    (hblanks : ∀ c ∈ blanks, Text.isBlank c) (rest : List Char) :
    readShortNumber (blanks ++ (padded 2 n ++ rest)) = some (n, rest) := by
  have hlength : (padded 2 n).length = 2 := length_padded (by decide) h
  rw [readShortNumber, trimStart_append (numeral_padded 2 n) hblanks]
  exact readNumber_append (numeral_padded 2 n) (by omega) hlength.le (.inl hlength)

/-- A number of two digits is read where it stands. -/
theorem readShortNumber_append (h : n < 100) (rest : List Char) :
    readShortNumber (padded 2 n ++ rest) = some (n, rest) :=
  readShortNumber_padded h [] (by simp) rest

theorem readNumber_two (h : n < 100) (rest : List Char) :
    readNumber 2 2 (padded 2 n ++ rest) = some (n, rest) :=
  readNumber_padded (by decide) h rest

theorem readNumber_four (h : n < 10000) (rest : List Char) :
    readNumber 4 4 (padded 4 n ++ rest) = some (n, rest) :=
  readNumber_padded (by decide) h rest

theorem isBlank_of_mem_padded {width : Nat} {c : Char} (h : c ∈ padded width n) :
    Text.isBlank c = false :=
  Text.isBlank_of_isDigit (forall_isDigit (numeral_padded width n) c h)

end Numerals

/-! ## One after the other -/

/-- What is read leads on to the rest. -/
theorem bind_of_eq_some {α β : Type} {x : Option α} {a : α} {f : α → Option β} {y : Option β}
    (h : x = some a) (hrest : f a = y) : (x >>= f) = y := by
  rw [h]
  exact hrest

theorem readChar_cons (c : Char) (rest : List Char) : readChar c (c :: rest) = some rest :=
  if_pos rfl

/-! ## Dates -/

/-- The sign that a year is written with; one of four digits has none. -/
def yearSign (year : Int) : List Char :=
  if 0 ≤ year ∧ year ≤ 9999 then [] else [if year < 0 then '-' else '+']

/-- A date by year, month and day. -/
def dateText (d : Date) : List Char :=
  yearSign d.year ++ padded 4 d.year.natAbs ++ '-' :: (padded 2 d.month ++ '-' :: padded 2 d.day)

/-- A time by hour, minute and second. -/
def clockText (hour minute second : Nat) : List Char :=
  padded 2 hour ++ ':' :: (padded 2 minute ++ ':' :: padded 2 second)

theorem isBlank_of_mem_dateText {d : Date} {c : Char} (h : c ∈ dateText d) :
    Text.isBlank c = false := by
  have hsign : ∀ c ∈ yearSign d.year, Text.isBlank c = false := by
    unfold yearSign
    split
    · simp
    · split <;> simp [Text.isBlank]
  simp only [dateText, List.mem_append, List.mem_cons] at h
  rcases h with (h | h) | rfl | h | rfl | h
  · exact hsign c h
  · exact isBlank_of_mem_padded h
  · decide
  · exact isBlank_of_mem_padded h
  · decide
  · exact isBlank_of_mem_padded h

theorem isBlank_of_mem_clockText {hour minute second : Nat} {c : Char}
    (h : c ∈ clockText hour minute second) : Text.isBlank c = false := by
  simp only [clockText, List.mem_append, List.mem_cons] at h
  rcases h with h | rfl | h | rfl | h
  · exact isBlank_of_mem_padded h
  · decide
  · exact isBlank_of_mem_padded h
  · decide
  · exact isBlank_of_mem_padded h

theorem yearText_eq (year : Int) :
    yearText year .zero = yearSign year ++ padded 4 year.natAbs := by
  rw [yearText, yearSign]
  by_cases h : 0 ≤ year ∧ year ≤ 9999
  · rw [if_pos (by simpa using h), if_pos h]
    simp only [paddedNumber, padded, List.length_nil, Nat.zero_add, List.nil_append]
  · rw [if_neg (by simpa using h), if_neg h]
    have hwidth (length : Nat) : 5 - (1 + length) = 4 - length := by omega
    simp only [paddedNumber, padded, List.length_singleton, hwidth, List.append_assoc]

theorem readYear_of_isDigit {c : Char} (hc : c.isDigit) (cs : List Char) :
    readYear (c :: cs) = (readNumber 1 4 (c :: cs)).map fun (n, rest) => ((n : Int), rest) := by
  rw [readYear, Text.trimStart_cons_of_not_blank (Text.isBlank_of_isDigit hc)]
  split
  · exact absurd hc (by simp_all)
  · exact absurd hc (by simp_all)
  · rfl

theorem readYear_minus (cs : List Char) :
    readYear ('-' :: cs) = (readNumber 1 cs.length cs).map fun (n, rest) => (-(n : Int), rest) :=
  rfl

theorem readYear_plus (cs : List Char) :
    readYear ('+' :: cs) = (readNumber 1 cs.length cs).map fun (n, rest) => ((n : Int), rest) :=
  rfl

/-- A year is read up to what is no digit. -/
theorem readYear_append (year : Int) {rest : List Char}
    (hrest : ∀ c ∈ rest.head?, c.isDigit = false) :
    readYear (yearSign year ++ (padded 4 year.natAbs ++ rest)) = some (year, rest) := by
  have hnumeral := numeral_padded 4 year.natAbs
  have hpos : 1 ≤ (padded 4 year.natAbs).length := List.length_pos_iff.mpr hnumeral.ne_nil
  have hsigned : readNumber 1 (padded 4 year.natAbs ++ rest).length (padded 4 year.natAbs ++ rest) =
      some (year.natAbs, rest) := readNumber_append hnumeral hpos (by simp) (.inr hrest)
  rw [yearSign]
  -- Without a sign the four digits are all that is read, with one it is all digits.
  split
  · rename_i hyear
    have hlength : (padded 4 year.natAbs).length = 4 := length_padded (by decide) (by omega)
    have hread := readNumber_append hnumeral hpos hlength.le (.inr hrest)
    obtain ⟨c, cs, hcons⟩ := List.exists_cons_of_ne_nil hnumeral.ne_nil
    have hc : c.isDigit := forall_isDigit hnumeral c (by simp [hcons])
    rw [hcons] at hread
    rw [hcons, List.nil_append, List.cons_append, readYear_of_isDigit hc, ← List.cons_append, hread]
    simp only [Option.map_some, Int.natAbs_of_nonneg hyear.1]
  · split
    · have hneg : -(year.natAbs : Int) = year := by omega
      rw [List.singleton_append, readYear_minus, hsigned]
      simp only [Option.map_some, hneg]
    · have hnonneg : (year.natAbs : Int) = year := by omega
      rw [List.singleton_append, readYear_plus, hsigned]
      simp only [Option.map_some, hnonneg]

section Dates

variable {d : Date} {day : Int}

theorem Date.Exists.month_lt_hundred (h : d.Exists) : d.month < 100 :=
  Nat.lt_of_le_of_lt h.month_le (by decide)

theorem Date.Exists.day_lt_hundred (h : d.Exists) : d.day < 100 :=
  Nat.lt_of_le_of_lt h.day_le_thirtyOne (by decide)

/-- A date is read. -/
theorem readDate_dateText (h : d.Exists) (rest : List Char) :
    readDate (dateText d ++ rest) = some (d, rest) := by
  simp only [dateText, List.append_assoc, List.cons_append]
  refine bind_of_eq_some (readYear_append d.year (by simp)) ?_
  refine bind_of_eq_some (readChar_cons '-' _) ?_
  refine bind_of_eq_some (readShortNumber_append h.month_lt_hundred _) ?_
  refine bind_of_eq_some (readChar_cons '-' _) ?_
  exact bind_of_eq_some (readShortNumber_append h.day_lt_hundred _) rfl

theorem dayInRange?_ofDay (h : Instant.isDayInRange day) :
    dayInRange? (Date.ofDay day) = some day := by
  rw [dayInRange?, Date.toDay?_ofDay, Option.filter_some, if_pos h]

end Dates

/-! ## Moments -/

namespace Instant

/-- An instant without the fraction of its second. -/
def whole (i : Instant) : Instant :=
  { i with nanosecond := i.nanosecond / secondNanos * secondNanos }

theorem whole_ofSeconds (seconds : Int) : (ofSeconds seconds).whole = ofSeconds seconds := by
  simp [whole, ofSeconds]

/-- Date and time, divided by a character. -/
def spelling (divider : Char) (i : Instant) : List Char :=
  dateText (Date.ofDay i.day) ++ divider :: clockText i.hour i.minute i.secondOfMinute

variable {i : Instant}

/-- The time that a clock shows is that of the instant. -/
theorem Valid.timeOfDay?_eq (h : i.Valid) :
    timeOfDay? i.hour i.minute i.secondOfMinute 0 = some (i.second, i.whole.nanosecond) := by
  have hhour := h.hour_lt
  have hminute := i.minute_lt
  have hsplit : i.hour * 3600 + i.minute * 60 + i.second % 60 = i.second := by
    rw [hour, minute]
    omega
  rcases h.secondOfMinute_cases with ⟨hnanos, hsecond⟩ | ⟨hnanos, hlast, hsecond⟩
  · have hlt : i.second % 60 < 60 := Nat.mod_lt _ (by decide)
    have hne : i.second % 60 ≠ 60 := hlt.ne
    simp only [timeOfDay?, hsecond, hhour, hminute, hlt.le, hne, whole, hnanos, hsplit, decide_true,
      Bool.and_self, if_true, if_false, Nat.zero_mul, Nat.add_zero]
  · rw [hlast] at hsplit
    simp only [timeOfDay?, hsecond, hhour, hminute, whole, hnanos, hsplit, decide_true,
      Bool.and_self, if_true, Nat.one_mul, Nat.add_zero, Nat.le_refl]

/-- Without the fraction it is still an instant that a clock shows. -/
theorem Valid.to_whole (h : i.Valid) : i.whole.Valid where
  inRange := h.inRange
  second_lt := h.second_lt
  nanosecond_lt := by
    have hle : i.nanosecond / secondNanos * secondNanos ≤ i.nanosecond := Nat.div_mul_le_self ..
    exact h.nanosecond_lt.imp (Nat.lt_of_le_of_lt hle) (And.imp_right (Nat.lt_of_le_of_lt hle))

theorem Valid.hour_lt_hundred (h : i.Valid) : i.hour < 100 :=
  Nat.lt_trans h.hour_lt (by decide)

theorem minute_lt_hundred (i : Instant) : i.minute < 100 :=
  Nat.lt_trans i.minute_lt (by decide)

theorem Valid.secondOfMinute_lt_hundred (h : i.Valid) : i.secondOfMinute < 100 := by
  have hmod : i.second % 60 < 60 := Nat.mod_lt _ (by decide)
  rcases h.secondOfMinute_cases with ⟨-, hsecond⟩ | ⟨-, -, hsecond⟩ <;> omega

/-- Date and time are read one number after the other. -/
theorem Valid.dateTime?_spelling (h : i.Valid) :
    dateTime? (i.spelling ' ') = some i.whole := by
  have hspace : ∀ c ∈ [' '], Text.isBlank c := by
    rw [List.forall_mem_singleton]
    decide
  have hsecond := readShortNumber_append h.secondOfMinute_lt_hundred []
  rw [List.append_nil] at hsecond
  refine bind_of_eq_some (readDate_dateText (Date.exists_ofDay i.day) _) ?_
  refine bind_of_eq_some (readShortNumber_padded h.hour_lt_hundred [' '] hspace _) ?_
  refine bind_of_eq_some (readChar_cons ':' _) ?_
  refine bind_of_eq_some (readShortNumber_append i.minute_lt_hundred _) ?_
  refine bind_of_eq_some (readChar_cons ':' _) ?_
  refine bind_of_eq_some hsecond ?_
  refine bind_of_eq_some h.timeOfDay?_eq ?_
  exact bind_of_eq_some (dayInRange?_ofDay h.inRange) rfl

/-- A date with a sign is not read with an offset. -/
theorem offsetDateTime?_cons {c : Char} (h : c.isDigit = false) (cs : List Char) :
    offsetDateTime? (c :: cs) = none := by
  have hread : readNumber 4 4 (c :: cs) = none := by simp [readNumber, h]
  rw [offsetDateTime?, hread]
  rfl

theorem yearSign_cases (year : Int) : (0 ≤ year ∧ yearSign year = [] ∧ year.natAbs < 10000) ∨
    ∃ sign, yearSign year = [sign] ∧ sign.isDigit = false := by
  rw [yearSign]
  split
  · exact .inl ⟨by omega, rfl, by omega⟩
  · split
    · exact .inr ⟨_, rfl, rfl⟩
    · exact .inr ⟨_, rfl, rfl⟩

/-- A date alone is not read with an offset. -/
theorem offsetDateTime?_dateText {d : Date} (h : d.Exists) :
    offsetDateTime? (dateText d) = none := by
  rcases yearSign_cases d.year with ⟨-, hsign, hyear⟩ | ⟨sign, hsign, hdigit⟩
  · have hday := readNumber_two h.day_lt_hundred []
    rw [List.append_nil] at hday
    rw [dateText, hsign, List.nil_append]
    refine bind_of_eq_some (readNumber_four hyear _) ?_
    refine bind_of_eq_some (readChar_cons '-' _) ?_
    refine bind_of_eq_some (readNumber_two h.month_lt_hundred _) ?_
    refine bind_of_eq_some (readChar_cons '-' _) ?_
    exact bind_of_eq_some hday rfl
  · rw [dateText, hsign]
    exact offsetDateTime?_cons hdigit _

/-- Behind date and time a fraction and an offset are read. -/
theorem Valid.offsetDateTime?_eq (h : i.Valid)
    (hyear : 0 ≤ (Date.ofDay i.day).year ∧ (Date.ofDay i.day).year ≤ 9999) {divider : Char}
    (hdivider : divider = 'T' ∨ divider = ' ') (rest : List Char) :
    offsetDateTime? (i.spelling divider ++ rest) = (do
      let (nano, cs) ← readFraction rest
      let (offset, cs) ← readOffset cs
      if cs.isEmpty then
        let (second, nano) ← timeOfDay? i.hour i.minute i.secondOfMinute nano
        return Instant.before ⟨← dayInRange? (Date.ofDay i.day), second, nano⟩ offset
      else none) := by
  have hdate := Date.exists_ofDay i.day
  have hsign : yearSign (Date.ofDay i.day).year = [] := if_pos hyear
  have hdigits : (Date.ofDay i.day).year.natAbs < 10000 := by omega
  have hnonneg : ((Date.ofDay i.day).year.natAbs : Int) = (Date.ofDay i.day).year := by omega
  have hread : readDivider (divider :: (clockText i.hour i.minute i.secondOfMinute ++ rest)) =
      some (clockText i.hour i.minute i.secondOfMinute ++ rest) := by
    rcases hdivider with rfl | rfl <;> rfl
  rw [spelling, dateText, hsign]
  simp only [List.nil_append, List.append_assoc, List.cons_append]
  refine bind_of_eq_some (readNumber_four hdigits _) ?_
  refine bind_of_eq_some (readChar_cons '-' _) ?_
  refine bind_of_eq_some (readNumber_two hdate.month_lt_hundred _) ?_
  refine bind_of_eq_some (readChar_cons '-' _) ?_
  refine bind_of_eq_some (readNumber_two hdate.day_lt_hundred _) ?_
  refine bind_of_eq_some hread ?_
  simp only [clockText, List.append_assoc, List.cons_append]
  refine bind_of_eq_some (readNumber_two h.hour_lt_hundred _) ?_
  refine bind_of_eq_some (readChar_cons ':' _) ?_
  refine bind_of_eq_some (readNumber_two i.minute_lt_hundred _) ?_
  refine bind_of_eq_some (readChar_cons ':' _) ?_
  refine bind_of_eq_some (readNumber_two h.secondOfMinute_lt_hundred _) ?_
  simp only [hnonneg]

/-- Without an offset, date and time are not read as those with one. -/
theorem Valid.offsetDateTime?_spelling (h : i.Valid) : offsetDateTime? (i.spelling ' ') = none := by
  rcases yearSign_cases (Date.ofDay i.day).year with ⟨hlow, -, hyear⟩ | ⟨sign, hsign, hdigit⟩
  · have hread := h.offsetDateTime?_eq ⟨hlow, by omega⟩ (.inr rfl) []
    -- Nothing is left to be an offset.
    rwa [List.append_nil] at hread
  · rw [spelling, dateText, hsign]
    exact offsetDateTime?_cons hdigit _

theorem before_zero (h : i.second < daySeconds) : i.before 0 = i := by
  obtain ⟨day, second, nanosecond⟩ := i
  simp only [before, ofSeconds, timestamp, daySeconds, Instant.mk.injEq] at *
  exact ⟨by omega, by omega, trivial⟩

/-- With the offset of universal time, date and time are read. -/
theorem Valid.offsetDateTime?_spelling_append (h : i.Valid)
    (hyear : 0 ≤ (Date.ofDay i.day).year ∧ (Date.ofDay i.day).year ≤ 9999) :
    offsetDateTime? (i.spelling 'T' ++ ['Z']) = some i.whole := by
  rw [h.offsetDateTime?_eq hyear (.inl rfl)]
  refine bind_of_eq_some (a := (0, ['Z'])) rfl ?_
  refine bind_of_eq_some (a := (0, [])) rfl ?_
  refine bind_of_eq_some h.timeOfDay?_eq ?_
  refine bind_of_eq_some (dayInRange?_ofDay h.inRange) ?_
  exact congrArg some (before_zero h.second_lt)

theorem dateTime?_dateText {d : Date} (h : d.Exists) : dateTime? (dateText d) = none := by
  have hread := readDate_dateText h []
  rw [List.append_nil] at hread
  exact bind_of_eq_some hread rfl

theorem midnight?_dateText {day : Int} (h : isDayInRange day) :
    midnight? (dateText (Date.ofDay day)) = some ⟨day, 0, 0⟩ := by
  have hread := readDate_dateText (Date.exists_ofDay day) []
  rw [List.append_nil] at hread
  refine bind_of_eq_some hread ?_
  exact bind_of_eq_some (dayInRange?_ofDay h) rfl

/-- Date and time are read. -/
theorem Valid.ofText?_spelling (h : i.Valid) : ofText? (i.spelling ' ') = some i.whole := by
  rw [ofText?, h.offsetDateTime?_spelling, h.dateTime?_spelling]
  rfl

/-- Date and time with the offset of universal time are read. -/
theorem Valid.ofText?_spelling_append (h : i.Valid)
    (hyear : 0 ≤ (Date.ofDay i.day).year ∧ (Date.ofDay i.day).year ≤ 9999) :
    ofText? (i.spelling 'T' ++ ['Z']) = some i.whole := by
  rw [ofText?, h.offsetDateTime?_spelling_append hyear]
  rfl

/-- A date is read as the beginning of its day. -/
theorem ofText?_dateText {day : Int} (h : isDayInRange day) :
    ofText? (dateText (Date.ofDay day)) = some ⟨day, 0, 0⟩ := by
  have hdate := Date.exists_ofDay day
  rw [ofText?, offsetDateTime?_dateText hdate, dateTime?_dateText hdate, midnight?_dateText h]
  rfl

end Instant

/-! ## Writing -/

theorem twoDigits_eq_padded {n : Nat} (h : n < 100) : twoDigits n .zero = padded 2 n := by
  revert n
  decide

/-- The pattern of a date. -/
def datePattern : Pattern :=
  [.number .year .zero, .text ['-'], .number .month .zero, .text ['-'], .number .day .zero]

/-- The pattern of a time behind a divider. -/
def clockPattern (divider : Char) : Pattern :=
  [.text [divider], .number .hour .zero, .text [':'], .number .minute .zero, .text [':'],
    .number .second .zero]

theorem Instant.format_append (i : Instant) (p q : Pattern) :
    i.format (p ++ q) = i.format p ++ i.format q :=
  List.flatMap_append

theorem Instant.format_datePattern (i : Instant) :
    i.format datePattern = dateText (Date.ofDay i.day) := by
  have hdate := Date.exists_ofDay i.day
  simp [Instant.format, datePattern, itemText, fieldText, yearText_eq, dateText,
    twoDigits_eq_padded hdate.month_lt_hundred, twoDigits_eq_padded hdate.day_lt_hundred]

theorem Instant.Valid.format_clockPattern {i : Instant} (h : i.Valid) (divider : Char) :
    i.format (clockPattern divider) =
      divider :: clockText i.hour i.minute i.secondOfMinute := by
  simp [Instant.format, clockPattern, itemText, fieldText, clockText,
    twoDigits_eq_padded h.hour_lt_hundred,
    twoDigits_eq_padded i.minute_lt_hundred,
    twoDigits_eq_padded h.secondOfMinute_lt_hundred]

/-- Date and time are written as they are spelled. -/
theorem Instant.Valid.format_spelling {i : Instant} (h : i.Valid) (divider : Char) :
    i.format (datePattern ++ clockPattern divider) = i.spelling divider := by
  rw [format_append, format_datePattern, h.format_clockPattern, spelling]

/-- The fraction of a second is not written. -/
theorem Instant.spelling_whole (i : Instant) (divider : Char) :
    i.whole.spelling divider = i.spelling divider := by
  have hsecond : i.whole.secondOfMinute = i.secondOfMinute := by
    rw [secondOfMinute, secondOfMinute, whole, Nat.mul_div_cancel _ secondNanos_pos]
  rw [spelling, hsecond]
  rfl

end Stencil.Calendar
