import Payments.Calendar.Instant

/-!
# Payments.Calendar.Epoch -- the clock of a computer

Computers count seconds from the beginning of the year 1970, leap seconds left out. Days are taken
apart into years that begin in March, because then the leap day is the last of its year and the
lengths of the months before it never change. Four hundred such years have 146097 days.
-/

namespace Payments

/-- The day that lies a number of days after the first of January 1970. -/
def Date.ofEpochDay? (n : Nat) : Option Date :=
  let days := n + 719468
  let cycle := days % 146097
  let yearOfCycle := (cycle - cycle / 1460 + cycle / 36524 - cycle / 146096) / 365
  let dayOfYear := cycle - (365 * yearOfCycle + yearOfCycle / 4 - yearOfCycle / 100)
  let monthFromMarch := (5 * dayOfYear + 2) / 153
  let day := dayOfYear - (153 * monthFromMarch + 2) / 5 + 1
  let month := if monthFromMarch < 10 then monthFromMarch + 3 else monthFromMarch - 9
  let year := yearOfCycle + 400 * (days / 146097) + if month ≤ 2 then 1 else 0
  Date.of? year month day

/-- The instant that lies a number of seconds and nanoseconds after the beginning of 1970. -/
def Instant.ofEpoch? (seconds nanoseconds : Nat) : Option Instant := do
  let date ← Date.ofEpochDay? (seconds / 86400)
  Instant.of? date (seconds % 86400) nanoseconds

end Payments
