import Payments.Proofs.Decimal.Nearest
import Payments.Proofs.Payment.Transition

/-!
# Payments.Proofs.Ledger.Refunds -- refunds entered one after another

A refund is added to what was refunded before, and only then is the sum compared with the amount. So
there are four answers (`Ledger.Answer`): the refund is not positive, the sum is too long for a
decimal, the sum is at most the amount and is entered, or the sum exceeds the amount. Where the sum
is rounded, what is compared and entered is the rounded sum.

`Ledger.attemptAll` tries refunds one after another, and `Ledger.accepted` lists those that were
entered. Their exact sum, `Decimal.total`, is what was really given back. `Ledger.Documented` is the
answer that the contract of the ledger promises, in terms of that exact sum.
-/

namespace Payments

/-- The exact sum of some amounts, in units. -/
def Decimal.total (ds : List Decimal) : Int :=
  (ds.map Decimal.units).sum

@[simp] theorem Decimal.total_nil : Decimal.total [] = 0 := rfl

@[simp] theorem Decimal.total_cons (d : Decimal) (ds : List Decimal) :
    Decimal.total (d :: ds) = d.units + Decimal.total ds := rfl

theorem Decimal.total_append (ds es : List Decimal) :
    Decimal.total (ds ++ es) = Decimal.total ds + Decimal.total es := by
  simp [Decimal.total]

namespace Ledger

variable {l m : Ledger} {r : Decimal}

/-! ## One refund -/

/-- What was refunded is not negative and does not exceed the amount. -/
structure Balanced (l : Ledger) : Prop where
  nonneg : Decimal.zero ≤ l.refunded
  le : l.refunded ≤ l.amount

theorem balanced_inCurrency {amount : Decimal} {currency : String}
    (h : inCurrency amount currency = .ok l) :
    l.amount = amount ∧ l.refunded = Decimal.zero ∧ l.Balanced := by
  unfold inCurrency at h
  split at h
  · cases h
  · next hpos =>
    cases h
    exact ⟨rfl, rfl, Int.le_refl _, Int.le_of_lt (Decimal.not_le_zero_iff.1 hpos)⟩

theorem ofAmount_of_pos {amount : Decimal} (h : Decimal.zero < amount) :
    ofAmount amount = .ok ⟨amount, Decimal.zero, defaultCurrency⟩ := by
  rw [ofAmount, inCurrency, if_neg (Decimal.not_le_zero_iff.2 h)]
  rfl

/-- The answers to a refund, each with what it says about the exact sum. -/
inductive Answer (l : Ledger) (r : Decimal) : Outcome Ledger → Prop where
  | notPositive (h : r ≤ Decimal.zero) :
    Answer l r
      (refuse (.invalidRefundAmount s!"refund amount must be positive, got {r.toText}"))
  | overflowed (hpos : Decimal.zero < r)
      (hlong : Decimal.TooLong (l.refunded.units + r.units) 0) :
    Answer l r (.error (.overflowed .addition))
  | entered (hpos : Decimal.zero < r)
      (hshort : ¬ Decimal.TooLong (l.refunded.units + r.units) 0) (sum : Decimal)
      (hsum : Decimal.Rounds (l.refunded.units + r.units) sum) (hle : sum ≤ l.amount) :
    Answer l r (.ok { l with refunded := sum })
  | exceeding (hpos : Decimal.zero < r)
      (hshort : ¬ Decimal.TooLong (l.refunded.units + r.units) 0)
      (hlt : l.amount.units < l.refunded.units + r.units) :
    Answer l r (refuse (.refundExceedsPayment l.amount l.refunded r))

theorem answer_refund (h : Decimal.zero ≤ l.refunded) (r : Decimal) :
    l.Answer r (l.refund r) := by
  unfold refund
  by_cases hpos : r ≤ Decimal.zero
  · rw [if_pos hpos]
    exact .notPositive hpos
  · rw [if_neg hpos]
    have hpos := Decimal.not_le_zero_iff.1 hpos
    obtain ⟨hadd, hlong⟩ | ⟨sum, hadd, hshort, hsum⟩ := Decimal.add?_cases h hpos
    · rw [hadd]
      exact .overflowed hpos hlong
    · rw [hadd]
      show Answer l r (if l.amount < sum then _ else _)
      by_cases hlt : l.amount < sum
      · rw [if_pos hlt]
        -- a sum that is at most the amount would have been rounded to at most the amount
        refine .exceeding hpos hshort (Int.not_le.1 fun hle => ?_)
        exact absurd hlt (Int.not_lt.2 (hsum.le_of_le hle))
      · rw [if_neg hlt]
        exact .entered hpos hshort sum hsum (Int.not_lt.1 hlt)

/-- What an entered refund makes of the ledger. -/
theorem Balanced.refund_eq_ok (h : l.Balanced) (hm : l.refund r = .ok m) :
    Decimal.zero < r ∧ Decimal.Rounds (l.refunded.units + r.units) m.refunded ∧
      m.refunded ≤ l.amount ∧ m = { l with refunded := m.refunded } := by
  have hanswer := answer_refund h.nonneg r
  rw [hm] at hanswer
  cases hanswer with
  | entered hpos hshort sum hsum hle => exact ⟨hpos, hsum, hle, rfl⟩

/-- Refunds never take back what was refunded before, even if the sum is rounded. -/
theorem Balanced.refunded_le (h : l.Balanced) (hm : l.refund r = .ok m) :
    l.refunded ≤ m.refunded := by
  obtain ⟨hpos, hsum, -, -⟩ := h.refund_eq_ok hm
  rw [Decimal.lt_iff_units, Decimal.units_zero] at hpos
  exact hsum.ge_of_ge (by omega)

theorem Balanced.refund (h : l.Balanced) (hm : l.refund r = .ok m) : m.Balanced := by
  have hgrows := h.refunded_le hm
  obtain ⟨-, -, hle, hm⟩ := h.refund_eq_ok hm
  have hamount : m.amount = l.amount := by rw [hm]
  exact ⟨Int.le_trans h.nonneg hgrows, hamount ▸ hle⟩

/-! ## One refund after another -/

/-- The ledger after a refund was tried: one that is not entered leaves it as it was. -/
def attempt (l : Ledger) (r : Decimal) : Ledger :=
  match l.refund r with
  | .ok m => m
  | .error _ => l

/-- The ledger after refunds were tried one after another. -/
def attemptAll (l : Ledger) (rs : List Decimal) : Ledger :=
  rs.foldl attempt l

/-- The refund, if it is entered. -/
def entry (l : Ledger) (r : Decimal) : List Decimal :=
  match l.refund r with
  | .ok _ => [r]
  | .error _ => []

/-- The refunds that are entered when they are tried one after another. -/
def accepted (l : Ledger) : List Decimal → List Decimal
  | [] => []
  | r :: rs => l.entry r ++ (l.attempt r).accepted rs

/-- The refund is entered with a sum that is not exact. -/
def isRounded (l : Ledger) (r : Decimal) : Bool :=
  match l.refund r with
  | .ok m => m.refunded.units ≠ l.refunded.units + r.units
  | .error _ => false

/-- How many of the refunds are entered with a sum that is not exact. -/
def roundings (l : Ledger) : List Decimal → Nat
  | [] => 0
  | r :: rs => (l.isRounded r).toNat + (l.attempt r).roundings rs

theorem attempt_frame (l : Ledger) (r : Decimal) :
    (l.attempt r).amount = l.amount ∧ (l.attempt r).currency = l.currency := by
  unfold attempt
  split
  · next m hm =>
    obtain ⟨-, sum, -, -, rfl⟩ := refund_eq_ok.1 hm
    exact ⟨rfl, rfl⟩
  · exact ⟨rfl, rfl⟩

/-- Refunds change neither the amount nor the currency. -/
theorem attemptAll_frame (l : Ledger) (rs : List Decimal) :
    (l.attemptAll rs).amount = l.amount ∧ (l.attemptAll rs).currency = l.currency := by
  induction rs generalizing l with
  | nil => exact ⟨rfl, rfl⟩
  | cons r rs ih =>
    obtain ⟨hamount, hcurrency⟩ := l.attempt_frame r
    obtain ⟨ihamount, ihcurrency⟩ := ih (l.attempt r)
    exact ⟨ihamount.trans hamount, ihcurrency.trans hcurrency⟩

theorem Balanced.attempt (h : l.Balanced) (r : Decimal) : (l.attempt r).Balanced := by
  unfold Ledger.attempt
  split
  · next m hm => exact h.refund hm
  · exact h

theorem Balanced.attemptAll (h : l.Balanced) (rs : List Decimal) : (l.attemptAll rs).Balanced := by
  induction rs generalizing l with
  | nil => exact h
  | cons r rs ih => exact ih (h.attempt r)

/-! ## What is promised -/

/-- The answer that the contract promises to a refund, after `given` units have been given back. -/
inductive Documented (l : Ledger) (given : Int) (r : Decimal) : Outcome Ledger → Prop where
  | notPositive (h : r ≤ Decimal.zero) :
    Documented l given r
      (refuse (.invalidRefundAmount s!"refund amount must be positive, got {r.toText}"))
  | entered (hpos : Decimal.zero < r) (hle : given + r.units ≤ l.amount.units) (sum : Decimal)
      (hsum : sum.units = given + r.units) :
    Documented l given r (.ok { l with refunded := sum })
  | exceeding (hpos : Decimal.zero < r) (hlt : l.amount.units < given + r.units) :
    Documented l given r (refuse (.refundExceedsPayment l.amount l.refunded r))

/-- A refund has the documented answer, unless the sum is too long for a decimal or is entered
rounded. -/
theorem Balanced.documented (h : l.Balanced) (hlong : l.refund r ≠ .error (.overflowed .addition))
    (hexact : l.isRounded r = false) : l.Documented l.refunded.units r (l.refund r) := by
  have hanswer := answer_refund h.nonneg r
  unfold isRounded at hexact
  generalize l.refund r = answer at *
  cases hanswer with
  | notPositive h => exact .notPositive h
  | overflowed => exact absurd rfl hlong
  | entered hpos hshort sum hsum hle =>
    have hunits : sum.units = l.refunded.units + r.units := by simpa using hexact
    refine .entered hpos ?_ sum hunits
    rw [← hunits]
    exact hle
  | exceeding hpos hshort hlt => exact .exceeding hpos hlt

/-- A refund that is not rounded counts in full. -/
theorem refunded_attempt (h : l.isRounded r = false) :
    (l.attempt r).refunded.units = l.refunded.units + Decimal.total (l.entry r) := by
  unfold isRounded at h
  unfold attempt entry
  split at h
  · next m hm =>
    have hunits : m.refunded.units = l.refunded.units + r.units := by simpa using h
    simpa using hunits
  · simp

/-- As long as no sum is rounded, what was refunded is the exact sum of the refunds entered. -/
theorem refunded_attemptAll {rs : List Decimal} (h : l.roundings rs = 0) :
    (l.attemptAll rs).refunded.units = l.refunded.units + Decimal.total (l.accepted rs) := by
  induction rs generalizing l with
  | nil => simp [attemptAll, accepted]
  | cons r rs ih =>
    have hr : (l.isRounded r).toNat = 0 := Nat.eq_zero_of_add_eq_zero_right h
    have hstep := refunded_attempt (Bool.toNat_eq_zero.1 hr)
    have hrest := ih (Nat.eq_zero_of_add_eq_zero_left h)
    rw [accepted, Decimal.total_append]
    show ((l.attempt r).attemptAll rs).refunded.units = _
    omega

end Ledger

end Payments
