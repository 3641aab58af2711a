import Payments.Proofs.Decimal.Exact

/-!
# Payments.Proofs.Decimal.Scale -- sums do not depend on scales

A sum is taken at the larger of two scales, and rounded there if it is too long. Both the scale and
how much of the sum is rounded away could depend on how the operands are written. They do not, as
far as the number goes: with another zero behind its mantissa a number is fitted into 96 bits at one
place more, where it either is the same number, or is rounded as it would have been without the zero
(`fitFrom_mul_ten`). So a sum is the exact sum of the numbers in the finest unit, fitted from there
(`Decimal.map_units_add?`), and equal numbers have equal sums, or both have none
(`Decimal.map_units_add?_congr`).
-/

namespace Payments

/-- A factor in numerator and denominator does not change how a quotient is rounded. -/
theorem halfEven_mul_mul {c : Nat} (hc : 0 < c) (n d : Nat) :
    halfEven (n * c) (d * c) = halfEven n d := by
  have hmul : 2 * (n % d * c) = 2 * (n % d) * c := (Nat.mul_assoc _ _ _).symm
  simp only [halfEven, Nat.mul_div_mul_right n d hc, Nat.mul_mod_mul_right, hmul,
    Nat.mul_lt_mul_right hc]

namespace Decimal

variable {a a' b b' d : Decimal} {s : Nat}

/-! ## Comparisons -/

theorem lt_congr (ha : a ≈ a') (hb : b ≈ b') : a < b ↔ a' < b' := by
  rw [lt_iff_units, lt_iff_units, equiv_iff_units.1 ha, equiv_iff_units.1 hb]

theorem le_congr (ha : a ≈ a') (hb : b ≈ b') : a ≤ b ↔ a' ≤ b' := by
  rw [le_iff_units, le_iff_units, equiv_iff_units.1 ha, equiv_iff_units.1 hb]

theorem equiv_congr (ha : a ≈ a') (hb : b ≈ b') : a ≈ b ↔ a' ≈ b' := by
  rw [equiv_iff_units, equiv_iff_units, equiv_iff_units.1 ha, equiv_iff_units.1 hb]

theorem isZero_congr (h : a ≈ a') : a.isZero = a'.isZero := by
  rw [Bool.eq_iff_iff, isZero_iff_units, isZero_iff_units, equiv_iff_units.1 h]

theorem neg_congr (h : a ≈ a') : a.neg ≈ a'.neg := by
  rw [equiv_iff_units, units_neg, units_neg, equiv_iff_units.1 h]

/-! ## Fitting a number with a zero more -/

/-- Where the first place has been given up, the zero makes no difference any more. -/
theorem fitFrom_mul_ten (mantissa dropped scale : Nat) :
    fitFrom (mantissa * 10) (dropped + 1) scale = fitFrom mantissa dropped scale := by
  have hround (k : Nat) :
      halfEven (mantissa * 10) (tenTo (k + 1)) = halfEven mantissa (tenTo k) :=
    halfEven_mul_mul (by decide) mantissa (tenTo k)
  induction scale generalizing dropped with
  | zero => simp only [fitFrom, hround]
  | succ scale ih => simp only [fitFrom, hround, ih]

/-- With a zero more and a place more it is the same number that fits, or none. -/
theorem map_units_fit?_mul_ten (negative : Bool) {mantissa scale : Nat} (hscale : scale < 28) :
    (fit? negative (mantissa * 10) (scale + 1)).map units =
      (fit? negative mantissa scale).map units := by
  by_cases hfits : mantissa * 10 < twoTo 96
  · -- it fits as it is, and so it does without the zero
    obtain ⟨c, hc, hcscale, hcsigned⟩ := fit?_of_lt negative hfits hscale
    have hfits' : mantissa < twoTo 96 := by omega
    obtain ⟨d, hd, hdscale, hdsigned⟩ := fit?_of_lt negative hfits' (Nat.le_of_lt hscale)
    have hsplit : 28 - scale = 1 + (28 - (scale + 1)) := by omega
    have hten : c.signed = d.signed * 10 := by
      rw [hcsigned, hdsigned]
      split <;> omega
    rw [hc, hd, Option.map_some, Option.map_some, units, units, hcscale, hdscale, hsplit, tenTo_add,
      hten, Int.natCast_mul, Int.mul_assoc]
    rfl
  · have hfirst : fitFrom (mantissa * 10) 0 (scale + 1) = fitFrom mantissa 0 scale := by
      simp only [fitFrom, halfEven_tenTo_zero, if_neg hfits]
      exact fitFrom_mul_ten mantissa 0 scale
    rw [fit?, fit?, hfirst]

theorem map_units_fit?_mul_tenTo (negative : Bool) (mantissa : Nat) {scale k : Nat}
    (h : scale + k ≤ 28) :
    (fit? negative (mantissa * tenTo k) (scale + k)).map units =
      (fit? negative mantissa scale).map units := by
  induction k with
  | zero => rw [show mantissa * tenTo 0 = mantissa from Nat.mul_one _, Nat.add_zero]
  | succ k ih =>
    rw [tenTo_add, ← Nat.mul_assoc, ← Nat.add_assoc]
    exact (map_units_fit?_mul_ten negative (by omega)).trans (ih (by omega))

/-! ## Sums and differences -/

/-- The sum of two numbers of which neither is zero is the exact sum, fitted from the finest unit
on. -/
theorem map_units_add? (ha : ¬ a.isZero) (hb : ¬ b.isZero) :
    (a.add? b).map units =
      (fit? (decide (a.units + b.units < 0)) (a.units + b.units).natAbs 28).map units := by
  have hscale : max a.scale b.scale ≤ 28 := Nat.max_le.2 ⟨a.scale_le, b.scale_le⟩
  rw [add?_of_nonzero ha hb,
    units_add_eq (Nat.le_max_left a.scale b.scale) (Nat.le_max_right _ _) hscale]
  generalize a.mantissaAt (max a.scale b.scale) + b.mantissaAt (max a.scale b.scale) = sum
  have hunit := natCast_tenTo_pos (28 - max a.scale b.scale)
  have hsign : sum * tenTo (28 - max a.scale b.scale) < 0 ↔ sum < 0 := by
    constructor
    · intro h
      exact Int.lt_of_mul_lt_mul_right (by rwa [Int.zero_mul]) (Int.le_of_lt hunit)
    · intro h
      exact Int.mul_neg_of_neg_of_pos h hunit
  simp only [hsign, Int.natAbs_mul, Int.natAbs_natCast]
  have hplaces : max a.scale b.scale + (28 - max a.scale b.scale) = 28 := by omega
  have hfit := map_units_fit?_mul_tenTo (decide (sum < 0)) sum.natAbs
    (Nat.le_of_eq hplaces)
  rw [hplaces] at hfit
  exact hfit.symm

/-- Equal numbers have equal sums, or both have none. -/
theorem map_units_add?_congr (ha : a ≈ a') (hb : b ≈ b') :
    (a.add? b).map units = (a'.add? b').map units := by
  by_cases hza : a.isZero
  · have hza' : a'.isZero := isZero_congr ha ▸ hza
    simp only [add?, hza, hza', if_true, Option.map_some, equiv_iff_units.1 hb]
  · have hza' : ¬ a'.isZero := isZero_congr ha ▸ hza
    by_cases hzb : b.isZero
    · have hzb' : b'.isZero := isZero_congr hb ▸ hzb
      simp only [add?, hza, hza', hzb, hzb', Bool.false_eq_true, if_false, if_true,
        Option.map_some, equiv_iff_units.1 ha]
    · have hzb' : ¬ b'.isZero := isZero_congr hb ▸ hzb
      rw [map_units_add? hza hzb, map_units_add? hza' hzb', equiv_iff_units.1 ha,
        equiv_iff_units.1 hb]

theorem map_units_sub?_congr (ha : a ≈ a') (hb : b ≈ b') :
    (a.sub? b).map units = (a'.sub? b').map units :=
  map_units_add?_congr ha (neg_congr hb)

end Decimal

end Payments
