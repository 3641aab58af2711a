/-!
# Payments.Number.Power -- powers of two and of ten

The bounds of numbers with so many bits, and the units of numbers with so many places.
-/

namespace Payments

/-- The least number that does not fit in `n` bits. -/
abbrev twoTo (n : Nat) : Nat :=
  Nat.pow 2 n

/-- The number written as a one and `n` zeros. -/
abbrev tenTo (n : Nat) : Nat :=
  Nat.pow 10 n

theorem tenTo_pos (n : Nat) : 0 < tenTo n :=
  Nat.pow_pos (by decide)

theorem tenTo_add (m n : Nat) : tenTo (m + n) = tenTo m * tenTo n :=
  Nat.pow_add 10 m n

end Payments
