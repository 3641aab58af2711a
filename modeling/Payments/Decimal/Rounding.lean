/-!
# Payments.Decimal.Rounding -- rounding a quotient to a whole number

Division of whole numbers, rounded to the nearest whole number. A quotient that lies exactly between
two goes to the even one (`halfEven`) or to the larger one (`halfUp`). Sums that outgrow a decimal's
mantissa and the double nearest to a given ratio are rounded in the first way, and numbers with more
places than a decimal has in the second.
-/

namespace Payments

/-- The whole number nearest to `n / d`; of two equally near the even one. -/
def halfEven (n d : Nat) : Nat :=
  let q := n / d
  let r := n % d
  if 2 * r < d then q else if d < 2 * r then q + 1 else q + q % 2

/-- The whole number nearest to `n / d`; of two equally near the larger one. -/
def halfUp (n d : Nat) : Nat :=
  (2 * n + d) / (2 * d)

/-- An exact quotient is not changed by rounding. -/
theorem halfEven_mul_right {d : Nat} (hd : 0 < d) (q : Nat) : halfEven (q * d) d = q := by
  simp [halfEven, Nat.mul_div_cancel q hd, hd]

/-- Rounding moves a quotient by at most one half. -/
theorem halfEven_near {n d : Nat} (hd : 0 < d) :
    2 * (halfEven n d * d) ≤ 2 * n + d ∧ 2 * n ≤ 2 * (halfEven n d * d) + d := by
  have hq : n / d * d + n % d = n := Nat.div_add_mod' n d
  have hr : n % d < d := Nat.mod_lt n hd
  have hs : (n / d + 1) * d = n / d * d + d := Nat.succ_mul _ _
  have hm : n / d % 2 = 0 ∨ n / d % 2 = 1 := by omega
  unfold halfEven
  dsimp only
  split
  · omega
  · split
    · rw [hs]; omega
    · rcases hm with h | h
      · rw [h, Nat.add_zero]; omega
      · rw [h, hs]; omega

/-- Rounding makes no quotient larger than its numerator. -/
theorem halfUp_le {d : Nat} (hd : 0 < d) (n : Nat) : halfUp n d ≤ n := by
  have h : n ≤ n * d := Nat.le_mul_of_pos_right n hd
  have e : (n + 1) * (2 * d) = 2 * (n * d) + 2 * d := by
    rw [Nat.add_mul, Nat.one_mul, Nat.mul_left_comm]
  exact Nat.le_of_lt_succ ((Nat.div_lt_iff_lt_mul (by omega)).2 (by rw [e]; omega))

end Payments
