import Payments.Number.Power

/-!
# Payments.Decimal.Basic -- decimal amounts with a scale

An amount of money is a sign, a mantissa below `2 ^ 96` and a scale of at most 28 places: the number
`± mantissa / 10 ^ scale`. Two amounts may denote one number at different scales (`10000` and
`10000.00`), so equality of numbers is not equality of decimals.

Every amount is a whole multiple of `10 ^ -28`. `Decimal.units` is that multiple, an exact integer,
and it carries the order (`<`, `≤`) and numeric equality (`≈`): the scale never takes part in a
comparison, and neither does the sign of a zero. A zero bears a minus only where a negative number
was rounded to it.
-/

namespace Payments

/-- A decimal number: `± mantissa / 10 ^ scale`. -/
structure Decimal where
  negative : Bool
  mantissa : Nat
  scale : Nat
  mantissa_lt : mantissa < twoTo 96
  scale_le : scale ≤ 28
deriving DecidableEq

namespace Decimal

/-- The decimal with these parts, if they are in range. A negative zero loses its sign. -/
def ofParts? (negative : Bool) (mantissa scale : Nat) : Option Decimal :=
  if h : mantissa < twoTo 96 ∧ scale ≤ 28 then
    some
      { negative := negative && mantissa != 0
        mantissa, scale
        mantissa_lt := h.1
        scale_le := h.2 }
  else none

/-- The whole number zero. -/
def zero : Decimal where
  negative := false
  mantissa := 0
  scale := 0
  mantissa_lt := by decide
  scale_le := by decide

instance : Inhabited Decimal := ⟨zero⟩

/-- The signed mantissa. -/
def signed (d : Decimal) : Int :=
  if d.negative then -(d.mantissa : Int) else d.mantissa

/-- The number as a multiple of `10 ^ -28`, the finest step a decimal can hold. -/
def units (d : Decimal) : Int :=
  d.signed * tenTo (28 - d.scale)

instance : LT Decimal := ⟨fun a b => a.units < b.units⟩

instance : LE Decimal := ⟨fun a b => a.units ≤ b.units⟩

/-- Numeric equality: the same number, whatever the scales. -/
instance : HasEquiv Decimal := ⟨fun a b => a.units = b.units⟩

theorem lt_iff_units {a b : Decimal} : a < b ↔ a.units < b.units := Iff.rfl

theorem le_iff_units {a b : Decimal} : a ≤ b ↔ a.units ≤ b.units := Iff.rfl

theorem equiv_iff_units {a b : Decimal} : a ≈ b ↔ a.units = b.units := Iff.rfl

instance (a b : Decimal) : Decidable (a < b) := inferInstanceAs (Decidable (a.units < b.units))

instance (a b : Decimal) : Decidable (a ≤ b) := inferInstanceAs (Decidable (a.units ≤ b.units))

instance (a b : Decimal) : Decidable (a ≈ b) := inferInstanceAs (Decidable (a.units = b.units))

@[simp] theorem units_zero : zero.units = 0 := by decide

/-- Whether the number is zero, at any scale. -/
def isZero (d : Decimal) : Bool :=
  d.mantissa == 0

/-- The same number with the other sign; a zero gets none. -/
def neg (d : Decimal) : Decimal :=
  { d with negative := !d.negative && d.mantissa != 0 }

/-- A whole number as a decimal, if its magnitude is below `2 ^ 96`. -/
def ofInt? (i : Int) : Option Decimal :=
  ofParts? (i < 0) i.natAbs 0

/-- Drops zeros from the end of a mantissa while there are places left to drop. -/
def stripZeros (mantissa : Nat) : Nat → Nat × Nat
  | 0 => (mantissa, 0)
  | scale + 1 =>
    if mantissa % 10 = 0 then stripZeros (mantissa / 10) scale else (mantissa, scale + 1)

theorem stripZeros_fst_le (m s : Nat) : (stripZeros m s).1 ≤ m := by
  induction s generalizing m with
  | zero => simp [stripZeros]
  | succ s ih =>
    rw [stripZeros]
    split
    · exact Nat.le_trans (ih (m / 10)) (Nat.div_le_self m 10)
    · exact Nat.le_refl m

theorem stripZeros_snd_le (m s : Nat) : (stripZeros m s).2 ≤ s := by
  induction s generalizing m with
  | zero => simp [stripZeros]
  | succ s ih =>
    rw [stripZeros]
    split
    · exact Nat.le_trans (ih (m / 10)) (Nat.le_succ s)
    · exact Nat.le_refl _

/-- The same number at its least scale: no zeros at the end of the fraction, and no sign of zero. -/
def normalize (d : Decimal) : Decimal where
  negative := d.negative && (stripZeros d.mantissa d.scale).1 != 0
  mantissa := (stripZeros d.mantissa d.scale).1
  scale := (stripZeros d.mantissa d.scale).2
  mantissa_lt := Nat.lt_of_le_of_lt (stripZeros_fst_le _ _) d.mantissa_lt
  scale_le := Nat.le_trans (stripZeros_snd_le _ _) d.scale_le

end Decimal

end Payments
