import Payments.Proofs.Ledger.Exact
import Payments.Proofs.Payment.Graph

/-!
# Payments.Proofs.Payment.Completion -- completing a refund that has begun

A refund is checked twice. When it begins, its amount is compared with what is left, a difference;
when it is completed, its sum with what was refunded before is compared with the amount of the
payment. As numbers the two comparisons say the same. The ledger compares decimals, and rounds the
difference and the sum each on its own, so they can disagree: a refund may begin that cannot be
completed, or may settle a payment of which something is left
(`Payment.begun_refund_is_not_completed`).

What holds for all decimals is `Payment.completed_within_rounding`. A refund that has begun exceeds
the exact remainder, if at all, by less than ten parts in `2 ^ 97` of it, and unless it does it is
completed. Where the amount of the payment has 96 bits at the largest scale involved, nothing is
rounded, and the two checks agree.
-/

namespace Payments

/-- A part of a whole that one rounding can make up: less than ten parts in `2 ^ 97`. -/
def Decimal.Slight (part whole : Int) : Prop :=
  (2 * twoTo 96 - 1) * part ≤ 10 * whole

namespace Ledger

variable {l : Ledger} {left r : Decimal} {s : Nat}

/-! ## What is left -/

/-- What the ledger shows to be left is the exact remainder up to rounding. -/
theorem Balanced.exists_refundable (h : l.Balanced) :
    ∃ left, l.refundable = .ok left ∧
      Decimal.Rounds (l.amount.units - l.refunded.units) left := by
  obtain ⟨left, hsub, hrounds⟩ := Decimal.sub?_rounds h.nonneg h.le
  exact ⟨left, refundable_eq_ok.2 hsub, hrounds⟩

/-- What is shown to be left is positive just if the refunds have not reached the amount: rounding
makes nothing of a remainder, and no remainder of nothing. -/
theorem Balanced.pos_refundable_iff (h : l.Balanced) (hleft : l.refundable = .ok left) :
    Decimal.zero < left ↔ l.isRefundable = true := by
  obtain ⟨left', hleft', hrounds⟩ := h.exists_refundable
  cases hleft.symm.trans hleft'
  rw [isRefundable, decide_eq_true_eq, Decimal.lt_iff_units, Decimal.lt_iff_units,
    Decimal.units_zero]
  constructor
  · intro hpos
    by_contra hnot
    have hzero : left ≤ Decimal.zero := by
      apply hrounds.le_of_le
      rw [Decimal.units_zero]
      omega
    rw [Decimal.le_iff_units, Decimal.units_zero] at hzero
    omega
  · intro hlt
    by_cases hexact : left.units = l.amount.units - l.refunded.units
    · omega
    · -- what was rounded is far from nothing
      have hlarge := hrounds.le_units_of_ne hexact
      have hstep := Decimal.natCast_tenTo_pos (28 - (left.scale + 1))
      rw [natCast_twoTo_96] at hlarge
      omega

/-- A refund of at most what is shown to be left exceeds the exact remainder only slightly. -/
theorem Balanced.slight_excess (h : l.Balanced)
    (hleft : Decimal.Rounds (l.amount.units - l.refunded.units) left) (hle : r ≤ left) :
    Decimal.Slight (l.refunded.units + r.units - l.amount.units)
      (l.amount.units - l.refunded.units) := by
  have hremainder := h.le
  rw [Decimal.le_iff_units] at hremainder hle
  have hgained := hleft.gained_le (by omega)
  rw [natCast_twoTo_96] at hgained
  rw [Decimal.Slight, natCast_twoTo_96]
  omega

/-- A sum that is rounded to the amount differs from it only slightly. -/
theorem Balanced.slight_of_equiv (h : l.Balanced) {u : Int} {sum : Decimal} (hu : 0 ≤ u)
    (hsum : Decimal.Rounds u sum) (hall : sum ≈ l.amount) :
    Decimal.Slight (u - l.amount.units) l.amount.units ∧
      Decimal.Slight (l.amount.units - u) l.amount.units := by
  have hamount : Decimal.zero ≤ l.amount := Int.le_trans h.nonneg h.le
  have hlost := hsum.lost_le hamount (Int.le_of_eq hall)
  have hgained := hsum.gained_le hu
  rw [Decimal.equiv_iff_units] at hall
  rw [Decimal.le_iff_units, Decimal.units_zero] at hamount
  unfold Decimal.Slight
  rw [hall] at hlost hgained
  rw [natCast_twoTo_96] at hgained hlost ⊢
  omega

/-! ## Refunds that are not rounded -/

/-- A refund that does not exceed the exact remainder is entered exactly where the ledger fits, and
the ledger goes on fitting. -/
theorem FitsAt.refund (h : l.FitsAt s) (hpos : Decimal.zero < r) (hscale : r.scale ≤ s)
    (hle : l.refunded.units + r.units ≤ l.amount.units) :
    ∃ m, l.refund r = .ok m ∧ m.amount = l.amount ∧
      m.refunded.units = l.refunded.units + r.units ∧ m.FitsAt s := by
  have hrefunded := h.refunded_mantissa
  have hnonneg : 0 ≤ r.mantissaAt s := Decimal.mantissaAt_nonneg (Int.le_of_lt hpos)
  have hamount := h.amount_lt
  -- at the scale the mantissas add up to no more than that of the amount
  have hsum : l.refunded.mantissaAt s + r.mantissaAt s ≤ l.amount.mantissaAt s := by
    rw [Decimal.units_add_eq h.refunded_scale hscale h.scale_le,
      Decimal.units_eq_mantissaAt h.amount_scale h.scale_le] at hle
    exact Int.le_of_mul_le_mul_right hle (Decimal.natCast_tenTo_pos _)
  obtain ⟨sum, hadd, hunits, hsumScale⟩ :=
    Decimal.add?_exact h.refunded_scale hscale h.scale_le (by omega)
  have hnot : ¬ l.amount < sum := by
    rw [Decimal.lt_iff_units, hunits]
    exact Int.not_lt.2 hle
  have hentered : l.refund r = .ok { l with refunded := sum } :=
    refund_eq_ok.2 ⟨Decimal.not_le_zero_iff.2 hpos, sum, hadd, hnot, rfl⟩
  exact ⟨_, hentered, rfl, hunits,
    { balanced := h.balanced.refund hentered
      scale_le := h.scale_le
      amount_scale := h.amount_scale
      refunded_scale := hsumScale
      amount_lt := h.amount_lt }⟩

end Ledger

namespace Payment

/-! ## How a completion ends -/

/-- The payment with a refund completed, its new status and its new ledger. -/
def completed (q : Payment) (status : Status) (ledger : Ledger) (refundId : String)
    (now : Instant) : Payment :=
  { q with
    reference := q.reference.addRefund refundId now
    status
    ledger
    refundedAt := some now }

/-- How the completion of a refund that has begun ends, each end with what it says about the exact
sum. The payment is settled if the sum is its amount up to one rounding, and goes on if the sum
stays below its amount. The completion fails only if the sum exceeds the amount, by a small part of
what was left. -/
inductive Completion (q : Payment) (amount : Decimal) (refundId : String) (now : Instant) :
    Outcome Payment → Prop where
  | settled (sum : Decimal)
      (hsum : Decimal.Rounds (q.ledger.refunded.units + amount.units) sum)
      (hall : sum ≈ q.ledger.amount)
      (hover : Decimal.Slight (q.ledger.refunded.units + amount.units - q.ledger.amount.units)
        q.ledger.amount.units)
      (hunder : Decimal.Slight (q.ledger.amount.units - (q.ledger.refunded.units + amount.units))
        q.ledger.amount.units) :
    Completion q amount refundId now
      (.ok (q.completed .refunded { q.ledger with refunded := sum } refundId now))
  | reduced (sum : Decimal)
      (hsum : Decimal.Rounds (q.ledger.refunded.units + amount.units) sum)
      (hpart : sum < q.ledger.amount)
      (hlt : q.ledger.refunded.units + amount.units < q.ledger.amount.units) :
    Completion q amount refundId now
      (.ok (q.completed .partiallyRefunded { q.ledger with refunded := sum } refundId now))
  | exceeding
      (hlt : q.ledger.amount.units < q.ledger.refunded.units + amount.units)
      (hover : Decimal.Slight (q.ledger.refunded.units + amount.units - q.ledger.amount.units)
        (q.ledger.amount.units - q.ledger.refunded.units)) :
    Completion q amount refundId now
      (refuse (.refundExceedsPayment q.ledger.amount q.ledger.refunded amount))
  | overflowed
      (hlt : q.ledger.amount.units < q.ledger.refunded.units + amount.units)
      (hover : Decimal.Slight (q.ledger.refunded.units + amount.units - q.ledger.amount.units)
        (q.ledger.amount.units - q.ledger.refunded.units)) :
    Completion q amount refundId now (.error (.overflowed .addition))

variable {p q : Payment} {amount left : Decimal}

/-- A completion in the right status is a matter of the ledger. -/
theorem completeRefund_of_refunding (h : q.status = .refunding) (amount : Decimal)
    (refundId : String) (now : Instant) :
    q.completeRefund amount refundId now =
      (q.ledger.refund amount).map fun l =>
        q.completed (if l.isFullyRefunded then .refunded else .partiallyRefunded) l refundId
          now := by
  rw [completeRefund, requireStatus, if_pos h]
  cases q.ledger.refund amount <;> rfl

theorem completion_of_refunding (hbalanced : q.ledger.Balanced) (hs : q.status = .refunding)
    (hpos : Decimal.zero < amount)
    (hleft : Decimal.Rounds (q.ledger.amount.units - q.ledger.refunded.units) left)
    (hle : amount ≤ left) (refundId : String) (now : Instant) :
    q.Completion amount refundId now (q.completeRefund amount refundId now) := by
  have hover := hbalanced.slight_excess hleft hle
  have hanswer := Ledger.answer_refund hbalanced.nonneg amount
  rw [completeRefund_of_refunding hs]
  generalize q.ledger.refund amount = answer at hanswer
  cases hanswer with
  | notPositive h => exact absurd hpos (Int.not_lt.2 h)
  | overflowed _ hlong =>
    -- a sum that does not exceed the amount would not be too long
    refine .overflowed (Int.not_le.1 fun hfits => ?_) hover
    exact Decimal.not_tooLong_units _ (hlong.of_le hfits)
  | exceeding _ _ hlt => exact .exceeding hlt hover
  | entered _ _ sum hsum hsumLe =>
    have hnonneg : 0 ≤ q.ledger.refunded.units + amount.units := by
      have hrefunded := hbalanced.nonneg
      rw [Decimal.le_iff_units, Decimal.units_zero] at hrefunded
      rw [Decimal.lt_iff_units, Decimal.units_zero] at hpos
      omega
    by_cases hall : sum ≈ q.ledger.amount
    · have hstatus : Ledger.isFullyRefunded { q.ledger with refunded := sum } = true :=
        decide_eq_true hall
      simp only [Except.map, hstatus, if_true]
      obtain ⟨hmore, hless⟩ := hbalanced.slight_of_equiv hnonneg hsum hall
      exact .settled sum hsum hall hmore hless
    · have hstatus : Ledger.isFullyRefunded { q.ledger with refunded := sum } = false :=
        decide_eq_false hall
      simp only [Except.map, hstatus, Bool.false_eq_true, if_false]
      have hpart : sum < q.ledger.amount := Int.lt_iff_le_and_ne.2 ⟨hsumLe, hall⟩
      refine .reduced sum hsum hpart (Int.not_le.1 fun hreach => ?_)
      -- a sum that reaches the amount would have been rounded to at least the amount
      exact absurd hpart (Int.not_lt.2 (hsum.ge_of_ge hreach))

theorem startRefund_of_le (hs : p.status.isRefundable = true) (hpos : Decimal.zero < amount)
    (hleft : p.ledger.refundable = .ok left) (hle : amount ≤ left) (reason : String) :
    p.startRefund amount reason =
      .ok { p with status := .refunding, refundReason := some reason } :=
  startRefund_eq_ok.2
    ⟨hs, Decimal.not_le_zero_iff.2 hpos, ⟨left, hleft, Int.not_lt.2 hle⟩, rfl⟩

/-- A refund begins with a positive amount that is at most what the ledger shows to be left. -/
theorem refunding_of_startRefund {reason : String} (hbalanced : p.ledger.Balanced)
    (h : p.startRefund amount reason = .ok q) :
    q.status = .refunding ∧ q.ledger = p.ledger ∧ Decimal.zero < amount ∧
      ∃ left, p.ledger.refundable = .ok left ∧ amount ≤ left ∧
        Decimal.Rounds (p.ledger.amount.units - p.ledger.refunded.units) left := by
  obtain ⟨-, hpos, ⟨left, hleft, hle⟩, rfl⟩ := startRefund_eq_ok.1 h
  obtain ⟨left', hleft', hrounds⟩ := hbalanced.exists_refundable
  cases hleft.symm.trans hleft'
  exact ⟨rfl, rfl, Decimal.not_le_zero_iff.1 hpos, left, hleft, Int.not_lt.1 hle, hrounds⟩

/-- Where the ledger fits at a scale, a refund of at most what is left is completed. It settles the
payment if it is all that is left; otherwise just as much less is left afterwards. -/
theorem completeRefund_of_fits {s : Nat} (hfits : q.ledger.FitsAt s) (hs : q.status = .refunding)
    (hpos : Decimal.zero < amount) (hscale : amount.scale ≤ s)
    (hleft : q.ledger.refundable = .ok left) (hle : amount ≤ left) (refundId : String)
    (now : Instant) :
    ∃ r, q.completeRefund amount refundId now = .ok r ∧
      (r.status = .refunded ↔ amount ≈ left) ∧
      (¬ amount ≈ left → r.status = .partiallyRefunded) ∧
      ∃ rest, r.ledger.refundable = .ok rest ∧ rest.units = left.units - amount.units := by
  obtain ⟨left', hleft', hunits⟩ := hfits.shows.refundable
  cases hleft.symm.trans hleft'
  rw [Decimal.le_iff_units] at hle
  obtain ⟨m, hm, hamount, hrefunded, hfitsAfter⟩ := hfits.refund hpos hscale (by omega)
  obtain ⟨rest, hrest, hrestUnits⟩ := hfitsAfter.shows.refundable
  rw [hamount] at hrestUnits
  have hfully : m.isFullyRefunded = true ↔ amount ≈ left := by
    rw [hfitsAfter.shows.fully, hamount, Decimal.equiv_iff_units]
    omega
  refine ⟨_, by rw [completeRefund_of_refunding hs, hm]; rfl, ?_, ?_, rest, hrest, ?_⟩
  · rw [← hfully]
    show (if m.isFullyRefunded then Status.refunded else .partiallyRefunded) = _ ↔ _
    split <;> simp [*]
  · intro hne
    exact if_neg fun h => hne (hfully.1 h)
  · omega

/-- Completing a refund that has begun. Whatever the life of the payment was, the amount of the
refund is at most what the ledger shows to be left, which is the exact remainder up to rounding; and
the completion has one of four ends, each with its condition on the exact sum. If the amount of the
payment has 96 bits at the largest scale of what is added and compared, the refund is completed: it
settles the payment just if it is all that is left, and otherwise it leaves the payment partially
refunded, with just as much less left. -/
theorem completed_within_rounding {orderId : String} {total : Decimal}
    {reference : Gateway.Reference} {payer : Payer} {payee : Payee} {createdAt : Instant}
    (h : create orderId total reference payer payee createdAt = .ok p) (ts : List Transition)
    {reason : String} (hstart : (p.attemptAll ts).startRefund amount reason = .ok q)
    (refundId : String) (now : Instant) :
    ∃ left, (p.attemptAll ts).ledger.refundable = .ok left ∧ amount ≤ left ∧
      Decimal.Rounds
        ((p.attemptAll ts).ledger.amount.units - (p.attemptAll ts).ledger.refunded.units) left ∧
      q.Completion amount refundId now (q.completeRefund amount refundId now) ∧
      (q.ledger.amount.mantissaAt
          (Decimal.largestScale [q.ledger.amount, q.ledger.refunded, amount]) < twoTo 96 →
        ∃ r, q.completeRefund amount refundId now = .ok r ∧
          (r.status = .refunded ↔ amount ≈ left) ∧
          (¬ amount ≈ left → r.status = .partiallyRefunded) ∧
          ∃ rest, r.ledger.refundable = .ok rest ∧ rest.units = left.units - amount.units) := by
  have hbalanced := balanced_attemptAll (balanced_create h).2 ts
  obtain ⟨hs, hledger, hpos, left, hleft, hle, hrounds⟩ :=
    refunding_of_startRefund hbalanced hstart
  rw [← hledger] at hbalanced hleft hrounds ⊢
  refine ⟨left, hleft, hle, hrounds,
    completion_of_refunding hbalanced hs hpos hrounds hle refundId now, fun hshort => ?_⟩
  have hfits : q.ledger.FitsAt
      (Decimal.largestScale [q.ledger.amount, q.ledger.refunded, amount]) :=
    { balanced := hbalanced
      scale_le := Decimal.largestScale_le _
      amount_scale := Decimal.scale_le_largestScale (by simp)
      refunded_scale := Decimal.scale_le_largestScale (by simp)
      amount_lt := hshort }
  exact completeRefund_of_fits hfits hs hpos (Decimal.scale_le_largestScale (by simp)) hleft hle
    refundId now

/-! ## Samples -/

namespace Sample

/-- A moment at which payments are approved, made and given back. -/
def noon : Instant :=
  ⟨⟨2024, 5, 1, by decide⟩, 43200, 0, by decide, by decide⟩

/-- A new payment of an amount. -/
def created (amount : Decimal) : Payment where
  id := none
  orderId := "order-1"
  ledger := ⟨amount, Decimal.zero, Ledger.defaultCurrency⟩
  reference := ⟨"TOSS", "pg-1", none, none, some noon, none, none⟩
  payer := ⟨"company-1", "Payer", none, none⟩
  payee := ⟨"company-2", "Payee"⟩
  status := .pending
  verification := .pending
  failureReason := none
  refundReason := none
  createdAt := noon
  verifiedAt := none
  refundedAt := none
  updatedAt := none
  deletion := none
  version := 0

theorem create_eq (amount : Decimal) (h : Decimal.zero < amount) :
    create "order-1" amount (created amount).reference (created amount).payer
      (created amount).payee noon = .ok (created amount) := by
  rw [create, Ledger.ofAmount_of_pos h]
  rfl

/-- The payment is verified, and a part of it is given back. -/
def steps (part : Decimal) : List Transition :=
  [.startVerification, .verify noon noon, .startRefund part "damaged",
    .completeRefund part "refund-1" noon]

/-- The payment of an amount after a part of it has been given back. -/
def reduced (amount part : Decimal) : Payment :=
  (created amount).attemptAll (steps part)

/-- The payment while a second refund is under way. -/
def refunding (amount part : Decimal) : Payment :=
  { reduced amount part with status := .refunding, refundReason := some "lost" }

end Sample

open Sample

/-- Nothing is rounded in a refund of the last forty of a hundred, which settles the payment. -/
theorem completed_within_rounding_of_remainder :
    let hundred : Decimal := ⟨false, 100, 0, by decide, by decide⟩
    let sixty : Decimal := ⟨false, 60, 0, by decide, by decide⟩
    let forty : Decimal := ⟨false, 400, 1, by decide, by decide⟩
    (reduced hundred sixty).startRefund forty "lost" = .ok (refunding hundred sixty) ∧
      ∃ r, (refunding hundred sixty).completeRefund forty "refund-2" noon = .ok r ∧
        r.status = .refunded := by
  intro hundred sixty forty
  have hleft : (reduced hundred sixty).ledger.refundable =
      .ok ⟨false, 40, 0, by decide, by decide⟩ := by decide +kernel
  have hq : (reduced hundred sixty).startRefund forty "lost" = .ok (refunding hundred sixty) :=
    startRefund_of_le (by decide +kernel) (by decide) hleft (by decide) "lost"
  obtain ⟨left, hleft', -, -, -, hexact⟩ :=
    completed_within_rounding (create_eq hundred (by decide)) (steps sixty) hq "refund-2" noon
  obtain ⟨r, hr, hstatus, -⟩ := hexact (by decide +kernel)
  have hforty := Except.ok.inj (hleft.symm.trans hleft')
  exact ⟨hq, r, hr, hstatus.2 (hforty ▸ by decide)⟩

/-- Refunds that begin and are not completed as their beginning promised. Of the largest whole
amount, of which 1.5 has been given back, all that is shown to be left is given back: the sum is
longer than any decimal. Of 10.000000000000000000000000001, of which
0.0000000000000000000000000015 has been given back, 10 is shown to be left and is refused as too
much. Of ten, of which 5 has been given back, a little less than 5 settles the payment. -/
theorem begun_refund_is_not_completed :
    let largest : Decimal := ⟨false, 79228162514264337593543950335, 0, by decide, by decide⟩
    let little : Decimal := ⟨false, 15, 1, by decide, by decide⟩
    let rest : Decimal := ⟨false, 79228162514264337593543950334, 0, by decide, by decide⟩
    let long : Decimal := ⟨false, 10000000000000000000000000001, 27, by decide, by decide⟩
    let least : Decimal := ⟨false, 15, 28, by decide, by decide⟩
    let ten : Decimal := ⟨false, 10, 0, by decide, by decide⟩
    let five : Decimal := ⟨false, 5, 0, by decide, by decide⟩
    let less : Decimal := ⟨false, 49999999999999999999999999999, 28, by decide, by decide⟩
    ((reduced largest little).startRefund rest "lost" = .ok (refunding largest little) ∧
        (refunding largest little).completeRefund rest "refund-2" noon =
          .error (.overflowed .addition)) ∧
      ((reduced long least).startRefund ten "lost" = .ok (refunding long least) ∧
        (refunding long least).completeRefund ten "refund-2" noon =
          refuse (.refundExceedsPayment long least ten)) ∧
      (reduced ten five).ledger.refundable = .ok five ∧ less < five ∧
        (reduced ten five).startRefund less "lost" = .ok (refunding ten five) ∧
        ((refunding ten five).completeRefund less "refund-2" noon).map Payment.status =
          .ok .refunded := by
  intro largest little rest long least ten five less
  have hrest : (reduced largest little).ledger.refundable = .ok rest := by decide +kernel
  have hten : (reduced long least).ledger.refundable =
      .ok ⟨false, 10000000000000000000000000000, 27, by decide, by decide⟩ := by decide +kernel
  have hfive : (reduced ten five).ledger.refundable = .ok five := by decide +kernel
  exact
    ⟨⟨startRefund_of_le (by decide +kernel) (by decide) hrest (by decide) "lost",
        by decide +kernel⟩,
      ⟨startRefund_of_le (by decide +kernel) (by decide) hten (by decide) "lost",
        by decide +kernel⟩,
      hfive, by decide,
      startRefund_of_le (by decide +kernel) (by decide) hfive (by decide) "lost",
      by decide +kernel⟩

end Payment

end Payments
