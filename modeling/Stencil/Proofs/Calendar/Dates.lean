import Mathlib.Algebra.Ring.Nat
import Mathlib.Data.Int.Init
import Stencil.Calendar.Date

/-!
# The calendar

Every day has one date that exists, and every date that exists is that of one day. The dates are
those of the Gregorian calendar: the 1st of January 1970 is day 0, and from one day to the next the
date goes on to the next day of the month, the next month or the next year.

* `yearOf_eq_iff` — the year of a day
* `Date.ofDay_eq_iff` — the date of a day is the one that exists and has the day's number
* `Date.ofDay_succ` — the date of the next day
-/

namespace Stencil.Calendar

/-! ## Years -/

/-- A year is as long as its months. -/
theorem startOfYear_succ (year : Int) :
    startOfYear (year + 1) = startOfYear year + (monthLengths (isLeap year)).sum := by
  cases hleap : isLeap year with
  | true =>
    simp only [isLeap, Bool.and_eq_true, Bool.or_eq_true, decide_eq_true_eq] at hleap
    simp only [startOfYear, monthLengths, if_true, List.sum_cons, List.sum_nil]
    omega
  | false =>
    simp only [isLeap, Bool.and_eq_false_iff, Bool.or_eq_false_iff, decide_eq_false_iff_not]
      at hleap
    simp only [startOfYear, monthLengths, Bool.false_eq_true, if_false, List.sum_cons, List.sum_nil]
    omega

theorem startOfYear_mono {year year' : Int} (h : year ≤ year') :
    startOfYear year ≤ startOfYear year' := by
  induction year', h using Int.leInduction with
  | base => exact Int.le_refl _
  | succ year' _ ih =>
    rw [startOfYear_succ]
    omega

/-- The year of a day is the one that the day lies in. -/
theorem yearOf_eq_iff {day year : Int} :
    yearOf day = year ↔ startOfYear year ≤ day ∧ day < startOfYear (year + 1) := by
  have hle := startOfYear_yearOf_le day
  have hlt := lt_startOfYear_succ_yearOf day
  constructor
  · rintro rfl
    exact ⟨hle, hlt⟩
  · rintro ⟨hle', hlt'⟩
    by_contra hne
    rcases Int.lt_or_gt_of_ne hne with h | h
    · have := startOfYear_mono (Int.add_one_le_of_lt h)
      omega
    · have := startOfYear_mono (Int.add_one_le_of_lt h)
      omega

theorem dayOfYear_lt (day : Int) :
    dayOfYear day < (monthLengths (isLeap (yearOf day))).sum := by
  have hle := startOfYear_yearOf_le day
  have hlt := lt_startOfYear_succ_yearOf day
  rw [startOfYear_succ] at hlt
  rw [dayOfYear]
  omega

/-! ## Months -/

section Months

variable {lengths : List Nat} {n k length : Nat}

/-- A day that comes `n` days behind the beginning of a month falls in that month. -/
theorem splitMonth_eq (month : Nat) (hk : lengths[k]? = some length) (hn : n < length) :
    splitMonth month lengths ((lengths.take k).sum + n) = (month + k, n + 1) := by
  induction lengths generalizing k month with
  | nil => simp at hk
  | cons first rest ih =>
    cases k with
    | zero =>
      obtain rfl : first = length := by simpa using hk
      simp [splitMonth, hn]
    | succ k =>
      have hbehind : ¬ first + (rest.take k).sum + n < first := by omega
      rw [List.getElem?_cons_succ] at hk
      rw [List.take_succ_cons, List.sum_cons, splitMonth, if_neg hbehind, Nat.add_assoc,
        Nat.add_sub_cancel_left, ih (month + 1) hk, Nat.add_right_comm, Nat.add_assoc]

/-- Every day of a year falls in one of its months. -/
theorem exists_month (h : n < lengths.sum) : ∃ k length d,
    lengths[k]? = some length ∧ d < length ∧ (lengths.take k).sum + d = n := by
  induction lengths generalizing n with
  | nil => simp at h
  | cons first rest ih =>
    by_cases hn : n < first
    · exact ⟨0, first, n, rfl, hn, by simp⟩
    · rw [List.sum_cons] at h
      obtain ⟨k, length, d, hk, hd, hsum⟩ := ih (n := n - first) (by omega)
      refine ⟨k + 1, length, d, hk, hd, ?_⟩
      rw [List.take_succ_cons, List.sum_cons]
      omega

theorem sum_take_succ (hk : lengths[k]? = some length) :
    (lengths.take (k + 1)).sum = (lengths.take k).sum + length := by
  rw [List.take_add_one, hk, List.sum_append, Option.toList_some, List.sum_singleton]

/-- The days before a month and those of the month are no more than those of the year. -/
theorem sum_take_add_le (hk : lengths[k]? = some length) :
    (lengths.take k).sum + length ≤ lengths.sum := by
  have hsplit := congrArg List.sum (List.take_append_drop (k + 1) lengths)
  rw [List.sum_append, sum_take_succ hk] at hsplit
  omega

end Months

/-! ## Dates -/

namespace Date

/-- The length of the month of a date, if there is such a month. -/
def monthLength? (d : Date) : Option Nat :=
  (monthLengths (isLeap d.year))[d.month - 1]?

/-- The days of the year before the month of a date. -/
def daysBefore (d : Date) : Nat :=
  ((monthLengths (isLeap d.year)).take (d.month - 1)).sum

/-- A date exists if its year has the month, and the month has the day. -/
structure Exists (d : Date) : Prop where
  month_pos : 1 ≤ d.month
  day_pos : 1 ≤ d.day
  day_le : ∃ length, d.monthLength? = some length ∧ d.day ≤ length

/-- The number of the day of a date that exists. -/
def number (d : Date) : Int :=
  startOfYear d.year + d.daysBefore + (d.day - 1)

/-- The date after a date that exists. -/
def next (d : Date) : Date :=
  if d.day < d.monthLength?.getD 0 then ⟨d.year, d.month, d.day + 1⟩
  else if d.month < 12 then ⟨d.year, d.month + 1, 1⟩
  else ⟨d.year + 1, 1, 1⟩

variable {d : Date} {day : Int}

theorem Exists.month_le (h : d.Exists) : d.month ≤ 12 := by
  obtain ⟨length, hlength, -⟩ := h.day_le
  have hlt : d.month - 1 < (monthLengths (isLeap d.year)).length :=
    (List.getElem?_eq_some_iff.mp hlength).1
  have hmonths : (monthLengths (isLeap d.year)).length = 12 := rfl
  omega

theorem Exists.day_le_thirtyOne (h : d.Exists) : d.day ≤ 31 := by
  obtain ⟨length, hlength, hle⟩ := h.day_le
  have hmem : length ∈ monthLengths (isLeap d.year) := List.mem_of_getElem? hlength
  have hmax : ∀ leap, ∀ length ∈ monthLengths leap, length ≤ 31 := by decide
  exact Nat.le_trans hle (hmax _ length hmem)

/-- A date that exists has the number of its day. -/
theorem toDay?_eq_some_iff : d.toDay? = some day ↔ d.Exists ∧ d.number = day := by
  have hbefore : ((monthLengths (isLeap d.year)).take (d.month - 1)).foldl (· + ·) 0 =
      d.daysBefore := (List.sum_eq_foldl ..).symm
  simp only [toDay?, hbefore]
  constructor
  · intro h
    split at h
    · rename_i length hlength
      split at h
      · rename_i hbounds
        simp only [Bool.and_eq_true, decide_eq_true_eq] at hbounds
        exact ⟨⟨hbounds.1.1, hbounds.1.2, length, hlength, hbounds.2⟩, Option.some.inj h⟩
      · cases h
    · cases h
  · rintro ⟨⟨hmonth, hday, length, hlength, hle⟩, rfl⟩
    rw [monthLength?] at hlength
    simp only [hlength]
    rw [if_pos (by simp [hmonth, hday, hle]), number]

/-- The date of a day is the one that exists and has the day's number. -/
theorem ofDay_eq_iff : ofDay day = d ↔ d.Exists ∧ d.number = day := by
  constructor
  · rintro rfl
    obtain ⟨k, length, n, hk, hn, hsum⟩ := exists_month (dayOfYear_lt day)
    have hdate : ofDay day = ⟨yearOf day, 1 + k, n + 1⟩ := by
      rw [ofDay, ← hsum, splitMonth_eq 1 hk hn]
    have hle := startOfYear_yearOf_le day
    rw [hdate]
    refine ⟨⟨Nat.le_add_right 1 k, Nat.le_add_left 1 n, length, ?_, hn⟩, ?_⟩
    · simpa [monthLength?] using hk
    · rw [dayOfYear] at hsum
      simp only [number, daysBefore, Nat.add_sub_cancel_left]
      omega
  · rintro ⟨⟨hmonth, hday, length, hlength, hle⟩, rfl⟩
    have htotal := sum_take_add_le hlength
    have hyear : yearOf d.number = d.year := by
      rw [yearOf_eq_iff, startOfYear_succ, number, daysBefore]
      omega
    have hdays : dayOfYear d.number = d.daysBefore + (d.day - 1) := by
      rw [dayOfYear, hyear, number]
      omega
    rw [ofDay, hyear, hdays, daysBefore, splitMonth_eq 1 hlength (by omega)]
    simp only [Nat.add_sub_cancel' hmonth, Nat.sub_add_cancel hday]

theorem exists_ofDay (day : Int) : (ofDay day).Exists :=
  (ofDay_eq_iff.mp rfl).1

theorem number_ofDay (day : Int) : (ofDay day).number = day :=
  (ofDay_eq_iff.mp rfl).2

theorem toDay?_ofDay (day : Int) : (ofDay day).toDay? = some day :=
  toDay?_eq_some_iff.mpr ⟨exists_ofDay day, number_ofDay day⟩

/-- The date after one that exists exists too, and is that of the next day. -/
theorem Exists.next (h : d.Exists) : d.next.Exists ∧ d.next.number = d.number + 1 := by
  obtain ⟨hmonth, hday, length, hlength, hle⟩ := h
  have hmonths : (monthLengths (isLeap d.year)).length = 12 := rfl
  have hpos : ∀ leap, ∀ length ∈ monthLengths leap, 1 ≤ length := by decide
  have hgetD : d.monthLength?.getD 0 = length := by rw [hlength, Option.getD_some]
  have hsum := sum_take_succ hlength
  rw [Nat.sub_add_cancel hmonth] at hsum
  rw [Date.next, hgetD]
  -- The next day is in the same month, or it begins the next month or the next year.
  by_cases hwithin : d.day < length
  · rw [if_pos hwithin]
    refine ⟨⟨hmonth, Nat.le_add_left 1 _, length, hlength, hwithin⟩, ?_⟩
    simp only [number, daysBefore]
    omega
  · rw [if_neg hwithin]
    by_cases hlast : d.month < 12
    · rw [if_pos hlast]
      have hget := List.getElem?_eq_getElem (hmonths ▸ hlast)
      have hfollowing := hpos _ _ (List.mem_of_getElem? hget)
      refine ⟨⟨Nat.le_add_left 1 _, Nat.le_refl 1, _, hget, hfollowing⟩, ?_⟩
      simp only [number, daysBefore, Nat.add_sub_cancel, hsum]
      omega
    · rw [if_neg hlast, number, startOfYear_succ]
      have hall : (monthLengths (isLeap d.year)).take d.month = monthLengths (isLeap d.year) :=
        List.take_of_length_le (by omega)
      rw [hall] at hsum
      refine ⟨⟨Nat.le_refl 1, Nat.le_refl 1, 31, rfl, by simp⟩, ?_⟩
      simp only [number, daysBefore, hsum, Nat.sub_self, List.take_zero, List.sum_nil]
      omega

theorem ofDay_zero : ofDay 0 = ⟨1970, 1, 1⟩ := by
  decide

/-- The date of the next day. -/
theorem ofDay_succ (day : Int) : ofDay (day + 1) = (ofDay day).next := by
  obtain ⟨hexists, hnumber⟩ := (exists_ofDay day).next
  exact ofDay_eq_iff.mpr ⟨hexists, hnumber.trans (by rw [number_ofDay])⟩

end Date

end Stencil.Calendar
