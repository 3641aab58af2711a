import Payments.Decimal.Arithmetic

/-!
# Payments.Proofs.Decimal.Sums -- the order of decimals, and where a sum fits

The order compares exact integers, so it is decided by the signed mantissas where one side is zero.
A sum whose mantissa outgrows 96 bits is rounded at a smaller scale: `Decimal.fitFrom_eq_some` and
`Decimal.fitFrom_eq_none` say at which scale it ends up, and that it fitted at none that was tried
before.
-/

namespace Payments

/-- Rounding gives up less than one. -/
theorem div_le_halfEven (n d : Nat) : n / d ≤ halfEven n d := by
  unfold halfEven
  dsimp only
  split
  · exact Nat.le_refl _
  · split <;> omega

/-- Where no places are dropped, nothing is rounded. -/
theorem halfEven_tenTo_zero (n : Nat) : halfEven n (tenTo 0) = n := by
  simpa using halfEven_mul_right (d := 1) Nat.one_pos n

namespace Decimal

theorem natCast_tenTo_pos (n : Nat) : (0 : Int) < tenTo n := Int.natCast_pos.2 (tenTo_pos n)

theorem units_pos_iff {d : Decimal} : 0 < d.units ↔ 0 < d.signed := by
  have hpos := natCast_tenTo_pos (28 - d.scale)
  constructor
  · intro h
    exact Int.lt_of_mul_lt_mul_right (by rwa [Int.zero_mul]) (Int.le_of_lt hpos)
  · intro h
    exact Int.mul_pos h hpos

theorem units_nonneg_iff {d : Decimal} : 0 ≤ d.units ↔ 0 ≤ d.signed := by
  have hpos := natCast_tenTo_pos (28 - d.scale)
  constructor
  · intro h
    exact Int.le_of_mul_le_mul_right (by rwa [Int.zero_mul]) hpos
  · intro h
    exact Int.mul_nonneg h (Int.le_of_lt hpos)

theorem zero_le_iff {d : Decimal} : zero ≤ d ↔ 0 ≤ d.signed := by
  rw [le_iff_units, units_zero, units_nonneg_iff]

theorem not_le_zero_iff {d : Decimal} : ¬ d ≤ zero ↔ zero < d := Int.not_le

theorem units_eq_zero {d : Decimal} (h : d.isZero) : d.units = 0 := by
  have hm : d.mantissa = 0 := by simpa [isZero] using h
  simp [units, signed, hm]

theorem isZero_iff_units {d : Decimal} : d.isZero = true ↔ d.units = 0 := by
  refine ⟨units_eq_zero, fun h => ?_⟩
  have hunit : (tenTo (28 - d.scale) : Int) ≠ 0 := Int.ne_of_gt (natCast_tenTo_pos _)
  have hsigned : d.signed = 0 := (Int.mul_eq_zero.1 h).resolve_right hunit
  have hm : d.mantissa = 0 := by
    unfold signed at hsigned
    split at hsigned <;> omega
  simp [isZero, hm]

/-! ## Sums with zero -/

theorem zero_add? (d : Decimal) : zero.add? d = some d := rfl

/-- Taking zero away changes nothing, not even the scale. -/
theorem sub?_zero {d : Decimal} (h : ¬ d ≤ zero) : d.sub? zero = some d := by
  have hz : d.isZero = false := by
    rw [Bool.eq_false_iff, ne_eq, isZero_iff_units]
    intro hunits
    rw [le_iff_units, hunits, units_zero] at h
    exact h (Int.le_refl 0)
  rw [sub?, add?, hz]
  rfl

/-! ## The scale at which a sum fits -/

/-- A number fits at the scale where it ends up, and at no larger one that was tried. -/
theorem fitFrom_eq_some {mantissa dropped scale m s : Nat}
    (h : fitFrom mantissa dropped scale = some (m, s)) :
    ∃ k, s + k = scale ∧ m = halfEven mantissa (tenTo (dropped + k)) ∧ m < twoTo 96 ∧
      ∀ j < k, twoTo 96 ≤ halfEven mantissa (tenTo (dropped + j)) := by
  induction scale generalizing dropped with
  | zero =>
    simp only [fitFrom] at h
    split at h
    · next hfits =>
      cases h
      exact ⟨0, rfl, rfl, hfits, fun j hj => absurd hj (Nat.not_lt_zero j)⟩
    · cases h
  | succ scale ih =>
    simp only [fitFrom] at h
    split at h
    · next hfits =>
      cases h
      exact ⟨0, rfl, rfl, hfits, fun j hj => absurd hj (Nat.not_lt_zero j)⟩
    · next hlarge =>
      obtain ⟨k, hs, hm, hfits, hbefore⟩ := ih h
      refine ⟨k + 1, by omega, ?_, hfits, ?_⟩
      · rw [hm, Nat.add_assoc, Nat.add_comm 1 k]
      · intro j hj
        cases j with
        | zero => exact Nat.not_lt.1 hlarge
        | succ j =>
          have hjk := hbefore j (Nat.lt_of_succ_lt_succ hj)
          rwa [Nat.add_assoc, Nat.add_comm 1 j] at hjk

/-- A number that fits at no scale is too large even for a whole number. -/
theorem fitFrom_eq_none {mantissa dropped scale : Nat}
    (h : fitFrom mantissa dropped scale = none) :
    twoTo 96 ≤ halfEven mantissa (tenTo (dropped + scale)) := by
  induction scale generalizing dropped with
  | zero =>
    simp only [fitFrom] at h
    split at h
    · cases h
    · next hlarge => exact Nat.not_lt.1 hlarge
  | succ scale ih =>
    simp only [fitFrom] at h
    split at h
    · cases h
    · have hrest := ih h
      rwa [Nat.add_assoc, Nat.add_comm 1 scale] at hrest

/-- Parts that are in range make a decimal. -/
theorem ofParts?_eq_some {mantissa scale : Nat} (hm : mantissa < twoTo 96) (hs : scale ≤ 28) :
    ∃ d, ofParts? false mantissa scale = some d ∧ d.scale = scale ∧ d.signed = mantissa :=
  ⟨_, dif_pos ⟨hm, hs⟩, rfl, rfl⟩

end Decimal

end Payments
