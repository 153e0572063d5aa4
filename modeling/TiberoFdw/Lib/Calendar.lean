import Mathlib.Data.List.Basic

/-!
# Days and instants

The proleptic Gregorian calendar with astronomical years: the year 0 is 1 BC, and the
rule for leap years holds for all years. Days are counted by their Julian day number,
and the microseconds of a day make the instant.
-/

namespace Calendar

/-- A leap year has a 29th of February. -/
def isLeap (year : Int) : Bool := year % 4 == 0 && (year % 100 != 0 || year % 400 == 0)

/-- The number of days of a month. -/
def daysInMonth (year : Int) (month : Nat) : Nat :=
  match month with
  | 4 | 6 | 9 | 11 => 30
  | 2 => if isLeap year then 29 else 28
  | _ => 31

/-- The days of a year before a month: from March on, a leap year has one more. -/
def daysBeforeMonth (year : Int) (month : Nat) : Nat :=
  [0, 0, 31, 59, 90, 120, 151, 181, 212, 243, 273, 304, 334].getD month 0 +
    if 2 < month ∧ isLeap year then 1 else 0

/-- The days from the 1st of January of the year 1 to that of another year. -/
def daysBeforeYear (year : Int) : Int :=
  365 * (year - 1) + (year - 1) / 4 - (year - 1) / 100 + (year - 1) / 400

/-- The Julian day number. -/
def julianDay (year : Int) (month day : Nat) : Int :=
  1721426 + daysBeforeYear year + daysBeforeMonth year month + (day - 1)

/-- There is such a day. -/
structure IsDay (year : Int) (month day : Nat) : Prop where
  monthPos : 1 ≤ month
  monthLe : month ≤ 12
  dayPos : 1 ≤ day
  dayLe : day ≤ daysInMonth year month

instance (year : Int) (month day : Nat) : Decidable (IsDay year month day) :=
  decidable_of_iff (1 ≤ month ∧ month ≤ 12 ∧ 1 ≤ day ∧ day ≤ daysInMonth year month)
    ⟨fun h => ⟨h.1, h.2.1, h.2.2.1, h.2.2.2⟩,
      fun h => ⟨h.monthPos, h.monthLe, h.dayPos, h.dayLe⟩⟩

/-- A time of day, to the microsecond. -/
structure Clock where
  hour : Nat
  minute : Nat
  second : Nat
  micro : Nat
  deriving DecidableEq

/-- There is such a time of day. -/
structure Clock.IsTime (clock : Clock) : Prop where
  hour : clock.hour < 24
  minute : clock.minute < 60
  second : clock.second < 60
  micro : clock.micro < 1000000

instance (clock : Clock) : Decidable clock.IsTime :=
  decidable_of_iff (clock.hour < 24 ∧ clock.minute < 60 ∧ clock.second < 60 ∧
    clock.micro < 1000000) ⟨fun h => ⟨h.1, h.2.1, h.2.2.1, h.2.2.2⟩,
      fun h => ⟨h.hour, h.minute, h.second, h.micro⟩⟩

/-- The microseconds from midnight on. -/
def Clock.micros (clock : Clock) : Int :=
  ((clock.hour * 60 + clock.minute) * 60 + clock.second) * 1000000 + clock.micro

/-- The microseconds from the start of the count of days on. -/
def instant (year : Int) (month day : Nat) (clock : Clock) : Int :=
  julianDay year month day * 86400000000 + clock.micros

/-! ## One year later -/

theorem daysBeforeMonth_le (year year' : Int) (month : Nat) :
    daysBeforeMonth year month ≤ daysBeforeMonth year' month + 1 := by
  rw [daysBeforeMonth, daysBeforeMonth]
  split_ifs <;> omega

/-- A month has at most 31 days. -/
theorem daysInMonth_le (year : Int) (month : Nat) : daysInMonth year month ≤ 31 := by
  rw [daysInMonth.eq_def]
  split
  · omega
  · omega
  · omega
  · omega
  · split_ifs <;> omega
  · omega

/-- A day of the next year comes later. -/
theorem julianDay_lt_next (year : Int) (month day : Nat) :
    julianDay year month day < julianDay (year + 1) month day := by
  have hmonth := daysBeforeMonth_le year (year + 1) month
  rw [julianDay, julianDay, daysBeforeYear, daysBeforeYear]
  omega

example : julianDay 2000 1 1 = 2451545 := by decide

end Calendar
