import Payments.Proofs.Decimal.Sums

/-!
# Payments.Proofs.Decimal.Exact -- when a sum is exact

Two decimals have mantissas at every common scale that has room for the places of both
(`Decimal.mantissaAt`). Their sum is exact as soon as the sum of these mantissas has at most 96 bits
at some such scale, whatever the scales and the signs are (`Decimal.add?_exact`). A difference is a
sum, so the same holds of it (`Decimal.sub?_exact`).
-/

namespace Payments

namespace Decimal

variable {a b d : Decimal} {s t : Nat}

/-! ## Mantissas at a common scale -/

/-- The mantissa of the number at a scale that has room for its places. -/
def mantissaAt (d : Decimal) (s : Nat) : Int :=
  d.signed * tenTo (s - d.scale)

theorem mantissaAt_of_le (hd : d.scale ≤ s) (hst : s ≤ t) :
    d.mantissaAt t = d.mantissaAt s * tenTo (t - s) := by
  have hsplit : t - d.scale = (s - d.scale) + (t - s) := by omega
  rw [mantissaAt, mantissaAt, hsplit, tenTo_add, Int.natCast_mul, Int.mul_assoc]

/-- The mantissa at the largest scale counts the finest units. -/
theorem units_eq_mantissaAt (hd : d.scale ≤ s) (hs : s ≤ 28) :
    d.units = d.mantissaAt s * tenTo (28 - s) :=
  mantissaAt_of_le hd hs

/-- The order of two numbers is that of their mantissas. -/
theorem mantissaAt_le_iff (ha : a.scale ≤ s) (hb : b.scale ≤ s) (hs : s ≤ 28) :
    a.mantissaAt s ≤ b.mantissaAt s ↔ a ≤ b := by
  rw [le_iff_units, units_eq_mantissaAt ha hs, units_eq_mantissaAt hb hs]
  have hpos := natCast_tenTo_pos (28 - s)
  constructor
  · intro h
    exact Int.mul_le_mul_of_nonneg_right h (Int.le_of_lt hpos)
  · intro h
    exact Int.le_of_mul_le_mul_right h hpos

theorem mantissaAt_nonneg (h : zero ≤ d) : 0 ≤ d.mantissaAt s :=
  Int.mul_nonneg (zero_le_iff.1 h) (Int.natCast_nonneg _)

theorem units_add_eq (ha : a.scale ≤ s) (hb : b.scale ≤ s) (hs : s ≤ 28) :
    a.units + b.units = (a.mantissaAt s + b.mantissaAt s) * tenTo (28 - s) := by
  rw [Int.add_mul, ← units_eq_mantissaAt ha hs, ← units_eq_mantissaAt hb hs]

theorem signed_neg (d : Decimal) : d.neg.signed = -d.signed := by
  unfold neg signed
  cases hn : d.negative with
  | true => simp
  | false =>
    -- a zero gets no sign, and needs none
    by_cases hm : d.mantissa = 0 <;> simp [hm]

theorem units_neg (d : Decimal) : d.neg.units = -d.units := by
  rw [units, signed_neg, Int.neg_mul]
  rfl

theorem mantissaAt_neg (d : Decimal) (s : Nat) : d.neg.mantissaAt s = -d.mantissaAt s := by
  rw [mantissaAt, signed_neg, Int.neg_mul]
  rfl

/-! ## Exact sums -/

/-- A mantissa of 96 bits is kept as it is. -/
theorem fit?_of_lt (negative : Bool) {mantissa scale : Nat} (hm : mantissa < twoTo 96)
    (hscale : scale ≤ 28) :
    ∃ c, fit? negative mantissa scale = some c ∧ c.scale = scale ∧
      c.signed = if negative then -(mantissa : Int) else mantissa := by
  have hfit : fitFrom mantissa 0 scale = some (mantissa, scale) := by
    cases scale <;> simp only [fitFrom, halfEven_tenTo_zero, if_pos hm]
  refine ⟨_, by rw [fit?, hfit]; exact dif_pos ⟨hm, hscale⟩, rfl, ?_⟩
  by_cases hzero : mantissa = 0 <;> simp [signed, hzero]

/-- The sum of two numbers of which neither is zero is that of their mantissas. -/
theorem add?_of_nonzero (ha : ¬ a.isZero) (hb : ¬ b.isZero) :
    a.add? b =
      fit? (decide (a.mantissaAt (max a.scale b.scale) + b.mantissaAt (max a.scale b.scale) < 0))
        (a.mantissaAt (max a.scale b.scale) + b.mantissaAt (max a.scale b.scale)).natAbs
        (max a.scale b.scale) := by
  rw [add?, if_neg ha, if_neg hb]
  rfl

/-- A sum is exact if its mantissa has at most 96 bits at some scale that has room for both numbers.
-/
theorem add?_exact (ha : a.scale ≤ s) (hb : b.scale ≤ s) (hs : s ≤ 28)
    (hfits : (a.mantissaAt s + b.mantissaAt s).natAbs < twoTo 96) :
    ∃ c, a.add? b = some c ∧ c.units = a.units + b.units ∧ c.scale ≤ s := by
  by_cases hza : a.isZero
  · refine ⟨b, by simp [add?, hza], ?_, hb⟩
    rw [units_eq_zero hza, Int.zero_add]
  · by_cases hzb : b.isZero
    · refine ⟨a, by simp [add?, hza, hzb], ?_, ha⟩
      rw [units_eq_zero hzb, Int.add_zero]
    · have hmax : max a.scale b.scale ≤ s := Nat.max_le.2 ⟨ha, hb⟩
      -- the sum is taken at the larger of the two scales, where its mantissa is not longer
      have hsum : a.mantissaAt s + b.mantissaAt s =
          (a.mantissaAt (max a.scale b.scale) + b.mantissaAt (max a.scale b.scale)) *
            tenTo (s - max a.scale b.scale) := by
        rw [mantissaAt_of_le (Nat.le_max_left a.scale b.scale) hmax,
          mantissaAt_of_le (Nat.le_max_right a.scale b.scale) hmax, Int.add_mul]
      have hshort : (a.mantissaAt (max a.scale b.scale) +
          b.mantissaAt (max a.scale b.scale)).natAbs < twoTo 96 := by
        rw [hsum, Int.natAbs_mul, Int.natAbs_natCast] at hfits
        exact Nat.lt_of_le_of_lt (Nat.le_mul_of_pos_right _ (tenTo_pos _)) hfits
      have hunits := units_add_eq (Nat.le_max_left a.scale b.scale) (Nat.le_max_right _ _)
        (Nat.le_trans hmax hs)
      have hadd := add?_of_nonzero hza hzb
      generalize a.mantissaAt (max a.scale b.scale) + b.mantissaAt (max a.scale b.scale) = sum at *
      obtain ⟨c, hc, hscale, hsigned⟩ :=
        fit?_of_lt (decide (sum < 0)) hshort (Nat.le_trans hmax hs)
      refine ⟨c, hadd.trans hc, ?_, hscale ▸ hmax⟩
      have hcs : c.signed = sum := by
        rw [hsigned]
        split
        · next hneg =>
          rw [decide_eq_true_iff] at hneg
          omega
        · next hneg =>
          rw [decide_eq_true_iff] at hneg
          omega
      rw [units, hcs, hscale, hunits]

/-- A difference is exact if its mantissa has at most 96 bits at some scale that has room for both
numbers. -/
theorem sub?_exact (ha : a.scale ≤ s) (hb : b.scale ≤ s) (hs : s ≤ 28)
    (hfits : (a.mantissaAt s - b.mantissaAt s).natAbs < twoTo 96) :
    ∃ c, a.sub? b = some c ∧ c.units = a.units - b.units ∧ c.scale ≤ s := by
  obtain ⟨c, hc, hunits, hscale⟩ := add?_exact (b := b.neg) ha hb hs (by
    rwa [mantissaAt_neg, ← Int.sub_eq_add_neg])
  refine ⟨c, hc, ?_, hscale⟩
  rw [hunits, units_neg, Int.sub_eq_add_neg]

end Decimal

end Payments
