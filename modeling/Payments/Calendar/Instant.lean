import Payments.Calendar.Date

/-!
# Payments.Calendar.Instant -- points in time

An instant is a date, a second of that day and a fraction of the second in nanoseconds, all in
universal time. A leap second is written as a fraction of a whole second or more: `23:59:60.5` is
second 86399 with a fraction of 1.5 seconds. It lies after every instant of the second it extends
and before the next second.
-/

namespace Payments

/-- A point in time. -/
structure Instant where
  date : Date
  second : Nat
  nano : Nat
  second_lt : second < 86400
  nano_lt : nano < 2000000000
deriving DecidableEq

namespace Instant

/-- The instant with these parts, if they are in range. -/
def of? (date : Date) (second nano : Nat) : Option Instant :=
  if h : second < 86400 ∧ nano < 2000000000 then some ⟨date, second, nano, h.1, h.2⟩ else none

/-- A number that grows with time. Instants are compared by it. -/
def rank (t : Instant) : Int :=
  (t.date.rank * 86400 + t.second) * 2000000000 + t.nano

instance : LT Instant := ⟨fun a b => a.rank < b.rank⟩

instance : LE Instant := ⟨fun a b => a.rank ≤ b.rank⟩

instance (a b : Instant) : Decidable (a < b) := inferInstanceAs (Decidable (a.rank < b.rank))

instance (a b : Instant) : Decidable (a ≤ b) := inferInstanceAs (Decidable (a.rank ≤ b.rank))

theorem lt_iff_rank {a b : Instant} : a < b ↔ a.rank < b.rank := Iff.rfl

theorem rank_injective {a b : Instant} (h : a.rank = b.rank) : a = b := by
  obtain ⟨d, s, n, hs, hn⟩ := a
  obtain ⟨d', s', n', hs', hn'⟩ := b
  simp only [rank] at h
  have hd : d.rank = d'.rank := by omega
  obtain rfl := Date.rank_injective hd
  obtain rfl : s = s' := by omega
  obtain rfl : n = n' := by omega
  rfl

/-- The date and second that lie `shift` seconds after second `second` of `date`; the shift is less
than a day either way. -/
def shiftSecond? (date : Date) (second : Nat) (shift : Int) : Option (Date × Nat) :=
  let s := (second : Int) + shift
  if s < 0 then date.pred?.map (·, (s + 86400).toNat)
  else if 86400 ≤ s then date.succ?.map (·, (s - 86400).toNat)
  else some (date, s.toNat)

/-- The instant that a clock shows which is `offset` seconds ahead of universal time. A leap second
stays one. -/
def ofLocal? (date : Date) (second nano : Nat) (offset : Int) : Option Instant := do
  let (date, second) ← shiftSecond? date second (-offset)
  of? date second nano

/-- The instant one hour earlier. An hour before a leap second is an hour before the second that
follows it. -/
def hourBefore? (t : Instant) : Option Instant :=
  if t.nano < 1000000000 then do
    let (date, second) ← shiftSecond? t.date t.second (-3600)
    of? date second t.nano
  else do
    let (date, second) ← shiftSecond? t.date t.second (-3599)
    of? date second (t.nano - 1000000000)

end Instant

/-- The date and time that a clock shows, without saying how far it is ahead of universal time. -/
structure LocalTime where
  date : Date
  second : Nat
  nano : Nat
  second_lt : second < 86400
  nano_lt : nano < 2000000000
deriving DecidableEq

/-- The local time with these parts, if they are in range. -/
def LocalTime.of? (date : Date) (second nano : Nat) : Option LocalTime :=
  if h : second < 86400 ∧ nano < 2000000000 then some ⟨date, second, nano, h.1, h.2⟩ else none

end Payments
