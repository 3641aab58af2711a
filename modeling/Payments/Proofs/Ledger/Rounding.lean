import Payments.Proofs.Ledger.Refunds

/-!
# Payments.Proofs.Ledger.Rounding -- refunds whose sums may be rounded

The ledger compares and keeps the sum that it could store. Where that sum was rounded down, the
refunds entered come to more than the ledger shows, and a payment can be over-refunded; where the
sum is too long for a decimal, the call does not return at all. Both happen only to sums that come
near `2 ^ 96` in the last place (`Ledger.rounded_refunds_exceed_amount`).

What holds for all decimals is `Ledger.refunded_within_rounding`: the sum shown never exceeds the
amount, each rounding loses less than ten parts in `2 ^ 97` of it, and until the first sum that is
rounded or too long every call has the answer that the contract promises.
-/

namespace Payments.Ledger

variable {l : Ledger} {r : Decimal}

/-- What an entered refund loses by rounding is a small part of the amount, and nothing is lost if
the sum is exact. -/
theorem Balanced.lost_attempt (h : l.Balanced) (r : Decimal) :
    (2 * twoTo 96 - 1) *
        (l.refunded.units + Decimal.total (l.entry r) - (l.attempt r).refunded.units) ≤
      10 * (l.isRounded r).toNat * l.amount.units := by
  cases hround : l.isRounded r with
  | false =>
    rw [refunded_attempt hround, Int.sub_self]
    simp
  | true =>
    have hanswer := answer_refund h.nonneg r
    unfold isRounded at hround
    unfold Ledger.attempt entry
    generalize l.refund r = answer at *
    cases hanswer with
    | notPositive | overflowed | exceeding => cases hround
    | entered hpos hshort sum hsum hle =>
      have hamount : Decimal.zero ≤ l.amount := Int.le_trans h.nonneg h.le
      simpa using hsum.lost_le hamount hle

/-- Along a run the losses add up. -/
theorem Balanced.lost_attemptAll (h : l.Balanced) (rs : List Decimal) :
    (2 * twoTo 96 - 1) *
        (l.refunded.units + Decimal.total (l.accepted rs) - (l.attemptAll rs).refunded.units) ≤
      10 * l.roundings rs * l.amount.units := by
  induction rs generalizing l with
  | nil =>
    show (2 * twoTo 96 - 1) * (l.refunded.units + 0 - l.refunded.units) ≤ 10 * (0 : Nat) * _
    simp
  | cons r rs ih =>
    have hstep := h.lost_attempt r
    have hrest := ih (h.attempt r)
    rw [(l.attempt_frame r).1] at hrest
    show (2 * twoTo 96 - 1) * (l.refunded.units + Decimal.total (l.entry r ++ _) -
      ((l.attempt r).attemptAll rs).refunded.units) ≤
        10 * ((l.isRounded r).toNat + (l.attempt r).roundings rs : Nat) * l.amount.units
    rw [Decimal.total_append, Int.natCast_add, Int.mul_add, Int.add_mul]
    rw [natCast_twoTo_96] at hstep hrest ⊢
    omega

/-- Whatever refunds are tried on a new ledger, with any decimals, and whichever is next: it has one
of four answers, each with its condition on the exact sum; the sum shown does not exceed the amount;
the exact sum of the refunds entered exceeds the amount by less than ten parts in `2 ^ 97` for each
sum that was rounded; and as long as none was, that exact sum does not exceed the amount, and the
next refund has the documented answer unless its own sum is too long or is entered rounded. -/
theorem refunded_within_rounding {amount : Decimal} {currency : String}
    (h : inCurrency amount currency = .ok l) (rs : List Decimal) (r : Decimal) :
    (l.attemptAll rs).Answer r ((l.attemptAll rs).refund r) ∧
      (l.attemptAll rs).amount = amount ∧ (l.attemptAll rs).refunded ≤ amount ∧
      (2 * twoTo 96 - 1) * Decimal.total (l.accepted rs) ≤
        (2 * twoTo 96 - 1 + 10 * l.roundings rs) * amount.units ∧
      (l.roundings rs = 0 →
        Decimal.total (l.accepted rs) ≤ amount.units ∧
          ((l.attemptAll rs).refund r ≠ .error (.overflowed .addition) →
            (l.attemptAll rs).isRounded r = false →
              (l.attemptAll rs).Documented (Decimal.total (l.accepted rs)) r
                ((l.attemptAll rs).refund r))) := by
  obtain ⟨hamount, hzero, hbalanced⟩ := balanced_inCurrency h
  have hafter := hbalanced.attemptAll rs
  have hframe := (l.attemptAll_frame rs).1.trans hamount
  have hle : (l.attemptAll rs).refunded ≤ amount := hframe ▸ hafter.le
  refine ⟨answer_refund hafter.nonneg r, hframe, hle, ?_, fun hexact => ?_⟩
  · have hlost := hbalanced.lost_attemptAll rs
    rw [hzero, hamount, Decimal.units_zero, Int.zero_add] at hlost
    rw [Decimal.le_iff_units] at hle
    rw [Int.add_mul]
    rw [natCast_twoTo_96] at hlost ⊢
    omega
  · have hsum := refunded_attemptAll hexact
    rw [hzero, Decimal.units_zero, Int.zero_add] at hsum
    rw [← hsum]
    exact ⟨hle, fun hlong hround => hafter.documented hlong hround⟩

/-- Of ten, 5.0000000000000000000000000001 is given back twice. The second sum has one place too
many and is rounded to ten, so the refunds exceed the amount, by no more than one rounding can lose.
-/
theorem refunded_within_rounding_of_ten :
    let ten : Decimal := ⟨false, 10, 0, by decide, by decide⟩
    let half : Decimal := ⟨false, 50000000000000000000000000001, 28, by decide, by decide⟩
    let l : Ledger := ⟨ten, Decimal.zero, defaultCurrency⟩
    inCurrency ten defaultCurrency = .ok l ∧ l.accepted [half, half] = [half, half] ∧
      l.roundings [half, half] = 1 ∧ (l.attemptAll [half, half]).refunded ≤ ten ∧
      ten.units < Decimal.total [half, half] ∧
      (2 * twoTo 96 - 1) * Decimal.total [half, half] ≤ (2 * twoTo 96 - 1 + 10) * ten.units := by
  intro ten half l
  have hopen : inCurrency ten defaultCurrency = .ok l := ofAmount_of_pos (by decide)
  have haccepted : l.accepted [half, half] = [half, half] := by decide
  have hroundings : l.roundings [half, half] = 1 := by decide
  obtain ⟨-, -, hle, hbound, -⟩ := refunded_within_rounding hopen [half, half] half
  rw [haccepted, hroundings] at hbound
  exact ⟨hopen, haccepted, hroundings, hle, by decide, hbound⟩

/-- The largest whole amount has been given back in full. Another 0.4 is entered all the same,
because the sum is rounded to the amount, and another 1 makes a sum that no decimal holds. -/
theorem rounded_refunds_exceed_amount :
    let amount : Decimal := ⟨false, 79228162514264337593543950335, 0, by decide, by decide⟩
    let little : Decimal := ⟨false, 4, 1, by decide, by decide⟩
    let one : Decimal := ⟨false, 1, 0, by decide, by decide⟩
    ∃ l, ofAmount amount = .ok l ∧ (l.attemptAll [amount]).isFullyRefunded = true ∧
      l.accepted [amount, little] = [amount, little] ∧
      amount.units < Decimal.total [amount, little] ∧
      (l.attemptAll [amount, little]).refund one = .error (.overflowed .addition) := by
  intro amount little one
  refine ⟨_, ofAmount_of_pos (by decide), ?_⟩
  decide

end Payments.Ledger
