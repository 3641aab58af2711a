/-!
# Payments.Calendar.Date -- days of the Gregorian calendar

A date is a year, a month and a day of the Gregorian calendar, extended in both directions and
counting a year 0. Years run from -262143 to 262142. Dates are compared by year, month and day; the
only steps that are ever taken are to the neighbouring day, when a clock time is moved across
midnight.
-/

namespace Payments

/-- Whether the year has a 29 February. -/
def isLeapYear (year : Int) : Bool :=
  year % 4 == 0 && (year % 100 != 0 || year % 400 == 0)

/-- The number of days of a month. -/
def daysInMonth (year : Int) (month : Nat) : Nat :=
  if month = 2 then (if isLeapYear year then 29 else 28)
  else if month = 4 ∨ month = 6 ∨ month = 9 ∨ month = 11 then 30
  else 31

/-- Whether the three numbers name a day of the calendar. -/
def Date.IsDay (year : Int) (month day : Nat) : Prop :=
  -262143 ≤ year ∧ year ≤ 262142 ∧ 1 ≤ month ∧ month ≤ 12 ∧ 1 ≤ day ∧ day ≤ daysInMonth year month

instance (year : Int) (month day : Nat) : Decidable (Date.IsDay year month day) :=
  inferInstanceAs (Decidable (_ ∧ _))

/-- A day of the calendar. -/
structure Date where
  year : Int
  month : Nat
  day : Nat
  isDay : Date.IsDay year month day
deriving DecidableEq

namespace Date

/-- The day with this year, month and day, if there is one. -/
def of? (year : Int) (month day : Nat) : Option Date :=
  if h : IsDay year month day then some ⟨year, month, day, h⟩ else none

/-- The day before, if years go back that far. -/
def pred? (d : Date) : Option Date :=
  if 1 < d.day then of? d.year d.month (d.day - 1)
  else if 1 < d.month then of? d.year (d.month - 1) (daysInMonth d.year (d.month - 1))
  else of? (d.year - 1) 12 31

/-- The day after, if years go on that far. -/
def succ? (d : Date) : Option Date :=
  if d.day < daysInMonth d.year d.month then of? d.year d.month (d.day + 1)
  else if d.month < 12 then of? d.year (d.month + 1) 1
  else of? (d.year + 1) 1 1

/-- A number that grows from day to day. It is not a count of days: the values between the end of
one month and the start of the next stand for no day. -/
def rank (d : Date) : Int :=
  (d.year * 13 + d.month) * 32 + d.day

theorem day_lt (d : Date) : d.day < 32 := by
  have h := d.isDay.2.2.2.2.2
  have : daysInMonth d.year d.month ≤ 31 := by
    unfold daysInMonth
    split
    · split <;> decide
    · split <;> decide
  omega

theorem rank_injective {d e : Date} (h : d.rank = e.rank) : d = e := by
  obtain ⟨y, m, k, hd⟩ := d
  obtain ⟨y', m', k', he⟩ := e
  have h1 := day_lt ⟨y, m, k, hd⟩
  have h2 := day_lt ⟨y', m', k', he⟩
  have h3 := hd.2.2.2.1
  have h4 := he.2.2.2.1
  simp only [rank] at h h1 h2
  obtain rfl : y = y' := by omega
  obtain rfl : m = m' := by omega
  obtain rfl : k = k' := by omega
  rfl

end Date

end Payments
