import Mathlib.Data.Nat.Find
import Mathlib.Data.Nat.Notation
import Mathlib.Tactic.Ring

/-!
# The Gregorian calendar

Dates of the proleptic Gregorian calendar from year 0 on and times of day, with the days
and nanoseconds that they count.

Main results:

* `Date.toDays_ofDays`: every day has a date.
* `DateTime.toNanos_ofNanos`: every nanosecond has a date and time.
-/

namespace Calendar

/-! ## Years and months -/

/-- The years with a 29th of February. -/
def isLeapYear (year : ℕ) : Bool := year % 4 = 0 ∧ (year % 100 ≠ 0 ∨ year % 400 = 0)

/-- The days of a year. -/
def yearLength (year : ℕ) : ℕ := if isLeapYear year then 366 else 365

/-- The days from the first of January of year 0 to that of a year. -/
def daysBeforeYear (year : ℕ) : ℕ :=
  365 * year + ((year + 3) / 4 + (year + 399) / 400 - (year + 99) / 100)

/-- The days of a month. -/
def monthLength (year month : ℕ) : ℕ :=
  if month = 2 then (if isLeapYear year then 29 else 28)
  else if month = 4 ∨ month = 6 ∨ month = 9 ∨ month = 11 then 30
  else 31

/-- The days from the first of January to the first of a month. -/
def daysBeforeMonth (year : ℕ) : ℕ → ℕ
  | 0 => 0
  | 1 => 0
  | month + 2 => daysBeforeMonth year (month + 1) + monthLength year (month + 1)

theorem daysBeforeYear_succ (year : ℕ) :
    daysBeforeYear (year + 1) = daysBeforeYear year + yearLength year := by
  unfold daysBeforeYear yearLength isLeapYear
  by_cases h4 : year % 4 = 0
  · by_cases h100 : year % 100 = 0
    · by_cases h400 : year % 400 = 0
      · simp only [h4, h100, h400, ne_eq, not_true_eq_false, or_true, and_true, decide_true,
          if_true]
        omega
      · simp only [h4, h100, h400, ne_eq, not_true_eq_false, or_false, and_false, decide_false,
          Bool.false_eq_true, if_false]
        omega
    · simp only [h4, h100, ne_eq, not_false_eq_true, true_or, and_true, decide_true, if_true]
      omega
  · simp only [h4, false_and, decide_false, Bool.false_eq_true, if_false]
    omega

theorem le_daysBeforeYear (year : ℕ) : 365 * year ≤ daysBeforeYear year :=
  Nat.le_add_right _ _

theorem yearLength_eq (year : ℕ) : yearLength year = daysBeforeMonth year 13 := by
  unfold yearLength
  simp only [daysBeforeMonth, monthLength]
  by_cases h : isLeapYear year = true <;> simp [h]

/-! ## Dates -/

/-- A date from year 0 on. -/
structure Date where
  year : ℕ
  month : ℕ
  day : ℕ
  month_pos : 1 ≤ month
  month_le : month ≤ 12
  day_pos : 1 ≤ day
  day_le : day ≤ monthLength year month
  deriving DecidableEq

/-- The days from the first of January of year 0. -/
def Date.toDays (date : Date) : ℕ :=
  daysBeforeYear date.year + daysBeforeMonth date.year date.month + (date.day - 1)

/-- The year that a day is in. -/
def yearOf (days : ℕ) : ℕ := Nat.findGreatest (fun year => daysBeforeYear year ≤ days) (days / 365)

theorem daysBeforeYear_yearOf (days : ℕ) : daysBeforeYear (yearOf days) ≤ days :=
  Nat.findGreatest_spec (P := fun year => daysBeforeYear year ≤ days) (Nat.zero_le _)
    (Nat.zero_le days)

theorem lt_daysBeforeYear_succ (days : ℕ) : days < daysBeforeYear (yearOf days + 1) := by
  by_cases hbound : yearOf days + 1 ≤ days / 365
  · exact Nat.lt_of_not_le (Nat.findGreatest_is_greatest
      (P := fun year => daysBeforeYear year ≤ days) (Nat.lt_succ_self _) hbound)
  · have hle := le_daysBeforeYear (yearOf days + 1)
    omega

/-- The month that a day of a year is in. -/
def monthOf (year rest : ℕ) : ℕ :=
  Nat.findGreatest (fun month => daysBeforeMonth year month ≤ rest) 12

theorem daysBeforeMonth_monthOf (year rest : ℕ) :
    daysBeforeMonth year (monthOf year rest) ≤ rest :=
  Nat.findGreatest_spec (P := fun month => daysBeforeMonth year month ≤ rest) (Nat.zero_le _)
    (Nat.zero_le rest)

theorem one_le_monthOf (year rest : ℕ) : 1 ≤ monthOf year rest :=
  Nat.le_findGreatest (P := fun month => daysBeforeMonth year month ≤ rest) (by decide)
    (Nat.zero_le rest)

theorem monthOf_le (year rest : ℕ) : monthOf year rest ≤ 12 := Nat.findGreatest_le 12

theorem daysBeforeMonth_succ (year : ℕ) {month : ℕ} (h : 1 ≤ month) :
    daysBeforeMonth year (month + 1) = daysBeforeMonth year month + monthLength year month := by
  obtain ⟨month, rfl⟩ := Nat.exists_eq_add_of_le' h
  rfl

/-- A day of a year comes before the end of its month. -/
theorem lt_daysBeforeMonth_succ {year rest : ℕ} (h : rest < yearLength year) :
    rest < daysBeforeMonth year (monthOf year rest + 1) := by
  by_cases hbound : monthOf year rest + 1 ≤ 12
  · exact Nat.lt_of_not_le (Nat.findGreatest_is_greatest
      (P := fun month => daysBeforeMonth year month ≤ rest) (Nat.lt_succ_self _) hbound)
  · have hle := monthOf_le year rest
    have htwelve : monthOf year rest = 12 := by omega
    rw [htwelve, ← yearLength_eq]
    exact h

theorem sub_lt_yearLength (days : ℕ) :
    days - daysBeforeYear (yearOf days) < yearLength (yearOf days) := by
  have hle := daysBeforeYear_yearOf days
  have hlt := lt_daysBeforeYear_succ days
  rw [daysBeforeYear_succ] at hlt
  omega

/-- The date of a day. -/
def Date.ofDays (days : ℕ) : Date where
  year := yearOf days
  month := monthOf (yearOf days) (days - daysBeforeYear (yearOf days))
  day := days - daysBeforeYear (yearOf days) - daysBeforeMonth (yearOf days)
    (monthOf (yearOf days) (days - daysBeforeYear (yearOf days))) + 1
  month_pos := one_le_monthOf _ _
  month_le := monthOf_le _ _
  day_pos := Nat.le_add_left 1 _
  day_le := by
    have hlt := lt_daysBeforeMonth_succ (sub_lt_yearLength days)
    have hle := daysBeforeMonth_monthOf (yearOf days) (days - daysBeforeYear (yearOf days))
    rw [daysBeforeMonth_succ _ (one_le_monthOf _ _)] at hlt
    omega

/-- Every day has a date. -/
theorem Date.toDays_ofDays (days : ℕ) : (Date.ofDays days).toDays = days := by
  have hyear := daysBeforeYear_yearOf days
  have hmonth := daysBeforeMonth_monthOf (yearOf days) (days - daysBeforeYear (yearOf days))
  show daysBeforeYear (yearOf days) + daysBeforeMonth (yearOf days)
    (monthOf (yearOf days) (days - daysBeforeYear (yearOf days))) + _ = days
  show _ + (days - daysBeforeYear (yearOf days) - daysBeforeMonth (yearOf days)
    (monthOf (yearOf days) (days - daysBeforeYear (yearOf days))) + 1 - 1) = days
  omega

/-- A day before a year is of an earlier year. -/
theorem Date.year_ofDays_lt {days year : ℕ} (h : days < daysBeforeYear year) :
    (Date.ofDays days).year < year := by
  have hmono : Monotone daysBeforeYear := by
    refine monotone_nat_of_le_succ fun y => ?_
    rw [daysBeforeYear_succ]
    exact Nat.le_add_right _ _
  refine Nat.lt_of_not_le fun hle => ?_
  have hbefore := hmono hle
  have hyear : daysBeforeYear (Date.ofDays days).year ≤ days := daysBeforeYear_yearOf days
  omega

/-! ## Times -/

/-- A time of day. -/
structure Time where
  hour : ℕ
  minute : ℕ
  second : ℕ
  nanosecond : ℕ
  hour_lt : hour < 24
  minute_lt : minute < 60
  second_lt : second < 60
  nanosecond_lt : nanosecond < 1000000000
  deriving DecidableEq

/-- The nanoseconds of a day. -/
def dayNanos : ℕ := 86400000000000

/-- The nanoseconds from midnight. -/
def Time.toNanos (time : Time) : ℕ :=
  ((time.hour * 60 + time.minute) * 60 + time.second) * 1000000000 + time.nanosecond

/-- The time of day of a nanosecond. -/
def Time.ofNanos (nanos : ℕ) : Time where
  hour := nanos / 3600000000000 % 24
  minute := nanos / 60000000000 % 60
  second := nanos / 1000000000 % 60
  nanosecond := nanos % 1000000000
  hour_lt := Nat.mod_lt _ (by decide)
  minute_lt := Nat.mod_lt _ (by decide)
  second_lt := Nat.mod_lt _ (by decide)
  nanosecond_lt := Nat.mod_lt _ (by decide)

theorem Time.toNanos_ofNanos {nanos : ℕ} (h : nanos < dayNanos) :
    (Time.ofNanos nanos).toNanos = nanos := by
  unfold dayNanos at h
  show ((nanos / 3600000000000 % 24 * 60 + nanos / 60000000000 % 60) * 60 +
    nanos / 1000000000 % 60) * 1000000000 + nanos % 1000000000 = nanos
  omega

/-! ## Dates with times -/

/-- A date and a time of day. -/
structure DateTime where
  date : Date
  time : Time
  deriving DecidableEq

/-- The nanoseconds from the start of year 0. -/
def DateTime.toNanos (dateTime : DateTime) : ℕ :=
  dateTime.date.toDays * dayNanos + dateTime.time.toNanos

/-- The date and time of a nanosecond. -/
def DateTime.ofNanos (nanos : ℕ) : DateTime where
  date := Date.ofDays (nanos / dayNanos)
  time := Time.ofNanos (nanos % dayNanos)

/-- Every nanosecond has a date and time. -/
theorem DateTime.toNanos_ofNanos (nanos : ℕ) : (DateTime.ofNanos nanos).toNanos = nanos := by
  have htime : (Time.ofNanos (nanos % dayNanos)).toNanos = nanos % dayNanos :=
    Time.toNanos_ofNanos (Nat.mod_lt _ (by decide))
  rw [DateTime.toNanos, DateTime.ofNanos, Date.toDays_ofDays, htime, Nat.mul_comm,
    Nat.div_add_mod]

end Calendar
