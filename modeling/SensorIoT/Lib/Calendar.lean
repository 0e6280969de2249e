import Mathlib.Algebra.GroupWithZero.Nat
import Mathlib.Data.List.Range
import Mathlib.Order.Monotone.Basic
import Mathlib.Tactic.IntervalCases

/-!
# The Gregorian calendar

Dates as numbers of days, for statements about how far apart two dates are and which of them comes
first.  The years are counted from the year 0 of the proleptic calendar.
-/

set_option autoImplicit false

namespace Calendar

/-- A leap year. -/
def isLeap (year : ℕ) : Bool := year % 4 == 0 && (year % 100 != 0 || year % 400 == 0)

/-- The days of a month, the months counted from 1. -/
def daysInMonth (year month : ℕ) : ℕ :=
  if month = 2 then (if isLeap year then 29 else 28)
  else if month = 4 ∨ month = 6 ∨ month = 9 ∨ month = 11 then 30
  else 31

/-- A date of the calendar. -/
structure IsDate (year month day : ℕ) : Prop where
  one_le_month : 1 ≤ month
  month_le : month ≤ 12
  one_le_day : 1 ≤ day
  day_le : day ≤ daysInMonth year month

instance (year month day : ℕ) : Decidable (IsDate year month day) :=
  decidable_of_iff (1 ≤ month ∧ month ≤ 12 ∧ 1 ≤ day ∧ day ≤ daysInMonth year month)
    ⟨fun h => ⟨h.1, h.2.1, h.2.2.1, h.2.2.2⟩, fun h => ⟨h.1, h.2, h.3, h.4⟩⟩

/-- The day of the year, counted from 1. -/
def dayOfYear (year month day : ℕ) : ℕ :=
  ((List.range' 1 (month - 1)).map (daysInMonth year)).sum + day

/-- The days of the years before a year. -/
def daysBeforeYear (year : ℕ) : ℕ :=
  ((List.range year).map fun y => if isLeap y then 366 else 365).sum

/-- The number of a day. -/
def dayNumber (year month day : ℕ) : ℕ := daysBeforeYear year + dayOfYear year month day

/-! ## Order -/

/-- The days of a year. -/
def daysInYear (year : ℕ) : ℕ := if isLeap year then 366 else 365

theorem daysBeforeYear_succ (year : ℕ) :
    daysBeforeYear (year + 1) = daysBeforeYear year + daysInYear year := by
  simp [daysBeforeYear, daysInYear, List.range_succ]

theorem daysBeforeYear_mono : Monotone daysBeforeYear :=
  monotone_nat_of_le_succ fun year => daysBeforeYear_succ year ▸ Nat.le_add_right _ _

/-- The days before each month, indexed from January, of a year that is not a leap year. -/
def daysBeforeMonth : List ℕ := [0, 31, 59, 90, 120, 151, 181, 212, 243, 273, 304, 334]

/-- A leap year has one day more, from March on. -/
theorem dayOfYear_eq {year month day : ℕ} (h : IsDate year month day) :
    dayOfYear year month day = daysBeforeMonth.getD (month - 1) 0
      + (if isLeap year = true ∧ 3 ≤ month then 1 else 0) + day := by
  obtain ⟨hfirst, hlast, -, -⟩ := h
  rw [dayOfYear]
  congr 1
  generalize hleap : isLeap year = leap
  interval_cases month <;> cases leap <;>
    simp [daysInMonth, daysBeforeMonth, hleap, List.range'_succ]

theorem dayOfYear_le {year month day : ℕ} (h : IsDate year month day) :
    dayOfYear year month day ≤ daysInYear year := by
  have hday := h.day_le
  rw [dayOfYear_eq h]
  obtain ⟨hfirst, hlast, -, -⟩ := h
  rw [daysInMonth] at hday
  rw [daysInYear]
  cases hleap : isLeap year <;> rw [hleap] at hday <;> interval_cases month <;>
    simp [daysBeforeMonth] at hday ⊢ <;> omega

/-- In a leap year, 29 February is day 60 and 1 March is day 61. -/
theorem three_le_month_iff {year month day : ℕ} (h : IsDate year month day)
    (hleap : isLeap year = true) : 3 ≤ month ↔ 61 ≤ dayOfYear year month day := by
  have hday := h.day_le
  rw [dayOfYear_eq h, hleap]
  obtain ⟨hfirst, hlast, hone, -⟩ := h
  rw [daysInMonth, hleap] at hday
  interval_cases month <;> simp [daysBeforeMonth] at hday ⊢ <;> omega

theorem one_le_dayOfYear {year month day : ℕ} (h : IsDate year month day) :
    1 ≤ dayOfYear year month day :=
  h.one_le_day.trans (Nat.le_add_left _ _)

/-- **Days are in order by year and day of the year.** -/
theorem dayNumber_lt_iff {year month day year' month' day' : ℕ} (h : IsDate year month day)
    (h' : IsDate year' month' day') :
    dayNumber year month day < dayNumber year' month' day' ↔
      year < year' ∨ year = year' ∧ dayOfYear year month day < dayOfYear year' month' day' := by
  have hbefore : ∀ {y m d y' m' d' : ℕ}, IsDate y m d → IsDate y' m' d' → y < y' →
      dayNumber y m d < dayNumber y' m' d' := by
    intro y m d y' m' d' hd hd' hlt
    have hle := dayOfYear_le hd
    have hone := one_le_dayOfYear hd'
    have hyear := daysBeforeYear_mono (Nat.succ_le_of_lt hlt)
    rw [daysBeforeYear_succ] at hyear
    rw [dayNumber, dayNumber]
    omega
  rcases Nat.lt_trichotomy year year' with hlt | rfl | hgt
  · exact iff_of_true (hbefore h h' hlt) (.inl hlt)
  · rw [dayNumber, dayNumber, Nat.add_lt_add_iff_left]
    simp
  · have := hbefore h' h hgt
    omega

theorem dayNumber_eq_iff {year month day year' month' day' : ℕ} (h : IsDate year month day)
    (h' : IsDate year' month' day') :
    dayNumber year month day = dayNumber year' month' day' ↔
      year = year' ∧ dayOfYear year month day = dayOfYear year' month' day' := by
  have hlt := dayNumber_lt_iff h h'
  have hgt := dayNumber_lt_iff h' h
  omega

end Calendar
