import Stencil.Calendar.Reader
import Stencil.Proofs.Calendar.Dates
import Stencil.Proofs.Text.References

/-!
# Instants

The instants that texts and numbers denote are those that a clock shows: the day is in range, the
second is one of the day, and only the last second of a minute goes on as a leap second.

* `Instant.Valid` — the instants that a clock shows
* `Instant.valid_of_ofTimestamp?`, `Instant.valid_of_ofText?` — no other instant is denoted
-/

namespace Stencil.Calendar

/-! ## Bounds of numbers -/

/-- A number that is read has no more digits than stand there. -/
theorem readNumber_lt {least most n : Nat} {cs rest : List Char}
    (h : readNumber least most cs = some (n, rest)) :
    n < 10 ^ ((cs.take most).takeWhile Char.isDigit).length := by
  simp only [readNumber] at h
  split at h
  · cases h
  · obtain ⟨value, hvalue, heq⟩ := Option.map_eq_some_iff.mp h
    obtain rfl : value = n := congrArg Prod.fst heq
    exact ((Text.digitsValue?_eq_some_iff (by decide)).mp hvalue).lt_pow

theorem readNumber_lt_pow {least most n : Nat} {cs rest : List Char}
    (h : readNumber least most cs = some (n, rest)) : n < 10 ^ most := by
  have hlength : ((cs.take most).takeWhile Char.isDigit).length ≤ most :=
    (List.takeWhile_sublist _).length_le.trans (List.length_take_le ..)
  exact Nat.lt_of_lt_of_le (readNumber_lt h) (Nat.pow_le_pow_right (by decide) hlength)

/-- A fraction is less than a second. -/
theorem readFraction_lt {nano : Nat} {cs rest : List Char}
    (h : readFraction cs = some (nano, rest)) : nano < Instant.secondNanos := by
  unfold readFraction at h
  split at h
  · rename_i cs
    obtain ⟨⟨n, behind⟩, hread, heq⟩ := Option.bind_eq_some_iff.mp h
    simp only [Option.pure_def, Option.some.injEq, Prod.mk.injEq] at heq
    have hlt := readNumber_lt hread
    have hlength : ((cs.take 9).takeWhile Char.isDigit).length ≤ 9 :=
      (List.takeWhile_sublist _).length_le.trans (List.length_take_le ..)
    generalize ((cs.take 9).takeWhile Char.isDigit).length = width at *
    calc nano = n * 10 ^ (9 - width) := heq.1.symm
      _ < 10 ^ width * 10 ^ (9 - width) := Nat.mul_lt_mul_of_pos_right hlt (Nat.pow_pos (by decide))
      _ = Instant.secondNanos := by
        rw [← Nat.pow_add, Nat.add_sub_cancel' hlength]
        rfl
  · cases h
    decide

theorem readSign_cases {sign : Int} {cs rest : List Char} (h : readSign cs = some (sign, rest)) :
    sign = 1 ∨ sign = -1 := by
  unfold readSign at h
  split at h <;> simp_all

/-- An offset is a number of minutes, less than a day. -/
theorem readOffset_bounds {offset : Int} {cs rest : List Char}
    (h : readOffset cs = some (offset, rest)) :
    offset % 60 = 0 ∧ -86400 < offset ∧ offset < 86400 := by
  unfold readOffset at h
  split at h
  · cases h
    decide
  · cases h
    decide
  · simp only [Option.bind_eq_bind, Option.bind_eq_some_iff, Prod.exists] at h
    obtain ⟨sign, _, hsign, hours, _, -, _, -, minutes, _, -, h⟩ := h
    split at h
    · rename_i hbounds
      simp only [Bool.and_eq_true, decide_eq_true_eq] at hbounds
      simp only [Option.pure_def, Option.some.injEq, Prod.mk.injEq] at h
      rw [← h.1]
      rcases readSign_cases hsign with rfl | rfl
      · omega
      · omega
    · cases h

/-! ## Years of four digits -/

/-- The days of the years of four digits. -/
theorem day_bounds {day : Int} (h : 0 ≤ yearOf day ∧ yearOf day ≤ 9999) :
    -719528 ≤ day ∧ day < 2932897 := by
  have hfirst : startOfYear 0 ≤ day :=
    (startOfYear_mono h.1).trans (startOfYear_yearOf_le day)
  have hlast : day < startOfYear 10000 :=
    (lt_startOfYear_succ_yearOf day).trans_le (startOfYear_mono (Int.add_le_add_right h.2 1))
  exact ⟨hfirst, hlast⟩

/-- They are far from the ends of the range. -/
theorem isDayInRange_of_bounds {day : Int} (h : -1000000 ≤ day ∧ day < 3000000) :
    Instant.isDayInRange day := by
  have hfirst : startOfYear Instant.firstYear ≤ -1000000 := by decide
  have hlast : 3000000 ≤ startOfYear (Instant.lastYear + 1) := by decide
  simp only [Instant.isDayInRange, Bool.and_eq_true, decide_eq_true_eq]
  omega

/-! ## Instants that a clock shows -/

namespace Instant

theorem daySeconds_pos : 0 < daySeconds := by
  decide

theorem secondNanos_pos : 0 < secondNanos := by
  decide

/-- An instant that a clock shows: the day is in range, and only the last second of a minute may go
on as a leap second. -/
structure Valid (i : Instant) : Prop where
  inRange : isDayInRange i.day
  second_lt : i.second < daySeconds
  nanosecond_lt : i.nanosecond < secondNanos ∨
    i.second % 60 = 59 ∧ i.nanosecond < 2 * secondNanos

variable {i : Instant}

theorem Valid.hour_lt (h : i.Valid) : i.hour < 24 := by
  have := h.second_lt
  rw [daySeconds] at this
  rw [hour]
  omega

theorem minute_lt (i : Instant) : i.minute < 60 :=
  Nat.mod_lt _ (by decide)

/-- The seconds of the minute tell a leap second. -/
theorem Valid.secondOfMinute_cases (h : i.Valid) :
    (i.nanosecond / secondNanos = 0 ∧ i.secondOfMinute = i.second % 60) ∨
      (i.nanosecond / secondNanos = 1 ∧ i.second % 60 = 59 ∧ i.secondOfMinute = 60) := by
  have hnanos := h.nanosecond_lt
  rw [secondOfMinute]
  rw [secondNanos] at *
  omega

/-- A number of seconds is an instant that a clock shows. -/
theorem valid_of_ofTimestamp? {seconds : Int} (h : ofTimestamp? seconds = some i) : i.Valid := by
  simp only [ofTimestamp?] at h
  split at h
  · rename_i hday
    cases h
    exact ⟨hday, by simp only [ofSeconds, daySeconds]; omega, .inl secondNanos_pos⟩
  · cases h

theorem ofTimestamp?_eq {seconds : Int}
    (h : 0 ≤ yearOf (seconds / 86400) ∧ yearOf (seconds / 86400) ≤ 9999) :
    ofTimestamp? seconds = some (ofSeconds seconds) := by
  have hday := day_bounds h
  refine if_pos (isDayInRange_of_bounds ?_)
  simp only [ofSeconds, daySeconds]
  omega

theorem valid_of_timeOfDay? {day : Int} {hour minute second nano s n : Nat}
    (hday : isDayInRange day) (hnano : nano < secondNanos)
    (h : timeOfDay? hour minute second nano = some (s, n)) : Valid ⟨day, s, n⟩ := by
  simp only [timeOfDay?] at h
  split at h
  · rename_i hbounds
    simp only [Bool.and_eq_true, decide_eq_true_eq] at hbounds
    simp only [Option.some.injEq, Prod.mk.injEq] at h
    obtain ⟨rfl, rfl⟩ := h
    by_cases hleap : second = 60
    · refine ⟨hday, ?_, .inr ?_⟩
      · simp only [hleap, if_true, daySeconds]
        omega
      · simp only [hleap, if_true]
        omega
    · refine ⟨hday, ?_, .inl ?_⟩
      · simp only [hleap, if_false, daySeconds]
        omega
      · simpa [hleap] using hnano
  · cases h

/-- Within the years of four digits, an offset does not lead out of the range. -/
theorem Valid.before {offset : Int} (h : i.Valid) (hminutes : offset % 60 = 0)
    (hbounds : -86400 < offset ∧ offset < 86400)
    (hyear : 0 ≤ yearOf i.day ∧ yearOf i.day ≤ 9999) : (i.before offset).Valid := by
  have hday := day_bounds hyear
  have hsecond := h.second_lt
  simp only [daySeconds] at hsecond
  refine ⟨isDayInRange_of_bounds ?_, ?_, h.nanosecond_lt.imp_right fun hleap => ⟨?_, hleap.2⟩⟩
  · simp only [Instant.before, ofSeconds, timestamp, daySeconds]
    omega
  · simp only [Instant.before, ofSeconds, daySeconds]
    omega
  · have hminute := hleap.1
    simp only [Instant.before, ofSeconds, timestamp, daySeconds]
    omega

theorem ofDay_of_dayInRange? {d : Date} {day : Int} (h : dayInRange? d = some day) :
    Date.ofDay day = d :=
  Date.ofDay_eq_iff.mpr (Date.toDay?_eq_some_iff.mp (Option.filter_eq_some_iff.mp h).1)

/-- A day that is read is in range. -/
theorem isDayInRange_of_dayInRange? {d : Date} {day : Int} (h : dayInRange? d = some day) :
    isDayInRange day :=
  (Option.filter_eq_some_iff.mp h).2

theorem valid_of_midnight? {cs : List Char} (h : midnight? cs = some i) : i.Valid := by
  obtain ⟨⟨date, _⟩, -, h⟩ := Option.bind_eq_some_iff.mp h
  dsimp only at h
  split at h
  · obtain ⟨day, hday, ⟨⟩⟩ := Option.bind_eq_some_iff.mp h
    exact ⟨isDayInRange_of_dayInRange? hday, daySeconds_pos, .inl secondNanos_pos⟩
  · cases h

theorem valid_of_dateTime? {cs : List Char} (h : dateTime? cs = some i) : i.Valid := by
  obtain ⟨⟨date, _⟩, -, h⟩ := Option.bind_eq_some_iff.mp h
  obtain ⟨⟨hour, _⟩, -, h⟩ := Option.bind_eq_some_iff.mp h
  obtain ⟨_, -, h⟩ := Option.bind_eq_some_iff.mp h
  obtain ⟨⟨minute, _⟩, -, h⟩ := Option.bind_eq_some_iff.mp h
  obtain ⟨_, -, h⟩ := Option.bind_eq_some_iff.mp h
  obtain ⟨⟨second, _⟩, -, h⟩ := Option.bind_eq_some_iff.mp h
  dsimp only at h
  split at h
  · obtain ⟨⟨s, n⟩, htime, h⟩ := Option.bind_eq_some_iff.mp h
    obtain ⟨day, hday, ⟨⟩⟩ := Option.bind_eq_some_iff.mp h
    exact valid_of_timeOfDay? (isDayInRange_of_dayInRange? hday) secondNanos_pos htime
  · cases h

/-- The year has four digits, so the offset does not lead out of the range. -/
theorem valid_of_offsetDateTime? {cs : List Char} (h : offsetDateTime? cs = some i) : i.Valid := by
  obtain ⟨⟨year, _⟩, hyear, h⟩ := Option.bind_eq_some_iff.mp h
  obtain ⟨_, -, h⟩ := Option.bind_eq_some_iff.mp h
  obtain ⟨⟨month, _⟩, -, h⟩ := Option.bind_eq_some_iff.mp h
  obtain ⟨_, -, h⟩ := Option.bind_eq_some_iff.mp h
  obtain ⟨⟨dayOfMonth, _⟩, -, h⟩ := Option.bind_eq_some_iff.mp h
  obtain ⟨_, -, h⟩ := Option.bind_eq_some_iff.mp h
  obtain ⟨⟨hour, _⟩, -, h⟩ := Option.bind_eq_some_iff.mp h
  obtain ⟨_, -, h⟩ := Option.bind_eq_some_iff.mp h
  obtain ⟨⟨minute, _⟩, -, h⟩ := Option.bind_eq_some_iff.mp h
  obtain ⟨_, -, h⟩ := Option.bind_eq_some_iff.mp h
  obtain ⟨⟨second, _⟩, -, h⟩ := Option.bind_eq_some_iff.mp h
  obtain ⟨⟨nano, _⟩, hnano, h⟩ := Option.bind_eq_some_iff.mp h
  obtain ⟨⟨offset, _⟩, hoffset, h⟩ := Option.bind_eq_some_iff.mp h
  dsimp only at h
  split at h
  · obtain ⟨⟨s, n⟩, htime, h⟩ := Option.bind_eq_some_iff.mp h
    obtain ⟨day, hday, ⟨⟩⟩ := Option.bind_eq_some_iff.mp h
    have hbounds := readOffset_bounds hoffset
    have hvalid := valid_of_timeOfDay? (isDayInRange_of_dayInRange? hday) (readFraction_lt hnano)
      htime
    -- Four digits were read, which is what keeps the day off the ends of the range.
    have hyear' : yearOf day = year := congrArg Date.year (ofDay_of_dayInRange? hday)
    have hlt := readNumber_lt_pow hyear
    exact hvalid.before hbounds.1 hbounds.2 (by simp only [hyear']; omega)
  · cases h

/-- An instant that a text denotes is one that a clock shows. -/
theorem valid_of_ofText? {cs : List Char} (h : ofText? cs = some i) : i.Valid := by
  simp only [ofText?, Option.orElse_eq_orElse, Option.orElse_eq_or, Option.or_eq_some_iff] at h
  rcases h with h | ⟨-, h | ⟨-, h⟩⟩
  · exact valid_of_offsetDateTime? h
  · exact valid_of_dateTime? h
  · exact valid_of_midnight? h

end Instant

end Stencil.Calendar
