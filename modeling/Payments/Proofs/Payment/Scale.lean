import Payments.Proofs.Ledger.Scale
import Payments.Proofs.Payment.Completion

/-!
# Payments.Proofs.Payment.Scale -- payments do not depend on scales

Two payments are created, and taken through the same steps, with amounts that are equal numbers at
different scales. Each step has results that agree (`Payment.Alike.apply`), so after any number of
steps, those that were refused or overflowed included, the payments say the same, stand in the same
status, and answer every question alike (`Payment.Indistinguishable`). Sums that are rounded are no
exception, because equal numbers are rounded to equal numbers.
-/

namespace Payments

namespace Payment

variable {p q : Payment}

/-- The payments say the same: ledgers that do, and all else equal. -/
structure Alike (p q : Payment) : Prop where
  ledger : p.ledger.Alike q.ledger
  rest : q = { p with ledger := q.ledger }

/-- Two steps that are one, but for how an amount is written. -/
inductive Transition.Alike : Transition → Transition → Prop where
  | same (t : Transition) : Alike t t
  | startRefund {amount amount' : Decimal} (h : amount ≈ amount') (reason : String) :
    Alike (.startRefund amount reason) (.startRefund amount' reason)
  | completeRefund {amount amount' : Decimal} (h : amount ≈ amount') (refundId : String)
      (now : Instant) :
    Alike (.completeRefund amount refundId now) (.completeRefund amount' refundId now)

theorem agree_create {amount amount' : Decimal} (h : amount ≈ amount') (orderId : String)
    (reference : Gateway.Reference) (payer : Payer) (payee : Payee) (now : Instant) :
    Outcome.Agree Alike (create orderId amount reference payer payee now)
      (create orderId amount' reference payer payee now) := by
  unfold create
  refine (Outcome.Agree.of_eq (R := Eq) fun _ => rfl).bind ?_
  rintro text _ rfl
  refine (Ledger.agree_inCurrency h Ledger.defaultCurrency).bind fun l m hl => ?_
  exact .ok ⟨hl, rfl⟩

namespace Alike

/-! ## One step -/

theorem status (h : p.Alike q) : p.status = q.status := by
  rw [h.rest]

/-- A step that needs a status is refused for both payments, or goes on for both. -/
theorem requireStatus_bind (h : p.Alike q) (required : Status) (operation : Operation)
    {f g : Unit → Outcome Payment} (hfg : Outcome.Agree Alike (f ()) (g ())) :
    Outcome.Agree Alike (p.requireStatus required operation >>= f)
      (q.requireStatus required operation >>= g) := by
  have hsame : p.requireStatus required operation = q.requireStatus required operation := by
    rw [requireStatus, requireStatus, h.status]
  rw [hsame]
  exact (Outcome.Agree.of_eq (R := Eq) fun _ => rfl).bind fun _ _ _ => hfg

theorem startRefund (h : p.Alike q) {amount amount' : Decimal} (ha : amount ≈ amount')
    (reason : String) :
    Outcome.Agree Alike (p.startRefund amount reason) (q.startRefund amount' reason) := by
  have hcongr := Decimal.le_congr ha (rfl : Decimal.zero.units = Decimal.zero.units)
  unfold Payment.startRefund
  rw [← h.status]
  cases p.status.isRefundable with
  | false => exact .refused (.same _)
  | true =>
    simp only [Bool.not_true, Bool.false_eq_true, if_false]
    by_cases hle : amount ≤ Decimal.zero
    · rw [if_pos hle, if_pos (hcongr.1 hle)]
      exact .refused (.invalidRefundAmount _ _)
    · rw [if_neg hle, if_neg (mt hcongr.2 hle)]
      refine h.ledger.refundable.bind fun left left' hleft => ?_
      have hlt := Decimal.lt_congr hleft ha
      by_cases hexceeds : left < amount
      · rw [if_pos hexceeds, if_pos (hlt.1 hexceeds)]
        exact .refused (.refundAmountExceedsPayment ha hleft)
      · rw [if_neg hexceeds, if_neg (mt hlt.2 hexceeds)]
        exact .ok ⟨h.ledger, by rw [h.rest]⟩

theorem completeRefund (h : p.Alike q) {amount amount' : Decimal} (ha : amount ≈ amount')
    (refundId : String) (now : Instant) :
    Outcome.Agree Alike (p.completeRefund amount refundId now)
      (q.completeRefund amount' refundId now) := by
  apply h.requireStatus_bind
  refine (h.ledger.refund ha).bind fun l m hl => ?_
  refine .ok ⟨hl, ?_⟩
  rw [hl.indistinguishable.isFullyRefunded, h.rest]

/-- Each step has results that agree. Only the steps of a refund look at the ledger. -/
theorem apply (h : p.Alike q) {t u : Transition} (htu : t.Alike u) :
    Outcome.Agree Alike (t.apply p) (u.apply q) := by
  cases htu with
  | startRefund ha reason => exact h.startRefund ha reason
  | completeRefund ha refundId now => exact h.completeRefund ha refundId now
  | same t =>
    cases t with
    | startVerification =>
      apply h.requireStatus_bind
      exact .ok ⟨h.ledger, by rw [h.rest]⟩
    | verify checkedAt now =>
      apply h.requireStatus_bind
      rw [h.rest]
      refine (Outcome.Agree.of_eq (R := Eq) fun _ => rfl).bind ?_
      rintro fresh _ rfl
      cases fresh with
      | false => exact .refused (.same _)
      | true => exact .ok ⟨h.ledger, rfl⟩
    | failVerification reason =>
      apply h.requireStatus_bind
      exact .ok ⟨h.ledger, by rw [h.rest]⟩
    | startRefund amount reason => exact h.startRefund rfl reason
    | completeRefund amount refundId now => exact h.completeRefund rfl refundId now
    | failRefund reason =>
      apply h.requireStatus_bind
      exact .ok ⟨h.ledger, by rw [h.rest]⟩
    | cancel reason =>
      show Outcome.Agree Alike (p.cancel reason) (q.cancel reason)
      unfold Payment.cancel
      rw [← h.status]
      cases p.status.isFinal with
      | true => exact .refused (.same _)
      | false => exact .ok ⟨h.ledger, by rw [h.rest]⟩

theorem validateAmount (h : p.Alike q) {amount amount' : Decimal} (ha : amount ≈ amount') :
    Outcome.Agree Eq (p.validateAmount amount) (q.validateAmount amount') := by
  unfold Payment.validateAmount
  rw [h.ledger.indistinguishable.isFor _ _ ha]
  cases q.ledger.isFor amount' with
  | true => exact .ok rfl
  | false => exact .refused (.amountMismatch h.ledger.amount ha)

/-! ## One step after another -/

theorem attempt (h : p.Alike q) {t u : Transition} (htu : t.Alike u) :
    (p.attempt t).Alike (q.attempt u) := by
  have hagree := h.apply htu
  unfold Payment.attempt
  generalize t.apply p = x at *
  generalize u.apply q = y at *
  cases hagree with
  | ok hafter => exact hafter
  | refused | overflowed => exact h

theorem attemptAll {ts us : List Transition} (h : p.Alike q)
    (htus : List.Forall₂ Transition.Alike ts us) : (p.attemptAll ts).Alike (q.attemptAll us) := by
  induction htus generalizing p q with
  | nil => exact h
  | cons htu _ ih => exact ih (h.attempt htu)

end Alike

/-- No question to the payments, and no step with one number, tells them apart. -/
structure Indistinguishable (p q : Payment) : Prop where
  alike : p.Alike q
  ledger : p.ledger.Indistinguishable q.ledger
  apply : ∀ t u : Transition, Transition.Alike t u → Outcome.Agree Alike (t.apply p) (u.apply q)
  validateAmount : ∀ a a', a ≈ a' → Outcome.Agree Eq (p.validateAmount a) (q.validateAmount a')
  status : p.status = q.status
  isVerified : p.isVerified = q.isVerified
  isRefundable : p.isRefundable = q.isRefundable
  isFullyRefunded : p.isFullyRefunded = q.isFullyRefunded
  isPartiallyRefunded : p.isPartiallyRefunded = q.isPartiallyRefunded

theorem Alike.indistinguishable (h : p.Alike q) : p.Indistinguishable q where
  alike := h
  ledger := h.ledger.indistinguishable
  apply := fun _ _ htu => h.apply htu
  validateAmount := fun _ _ ha => h.validateAmount ha
  status := h.status
  isVerified := by rw [Payment.isVerified, Payment.isVerified, h.status]
  isRefundable := by
    rw [Payment.isRefundable, Payment.isRefundable, h.status,
      h.ledger.indistinguishable.isRefundable]
  isFullyRefunded := by rw [Payment.isFullyRefunded, Payment.isFullyRefunded, h.status]
  isPartiallyRefunded := by rw [Payment.isPartiallyRefunded, Payment.isPartiallyRefunded, h.status]

/-- The scale of an amount never matters. If two ledgers are opened for one number, or two payments
are created for it, both are refused for one reason, or they say the same; and after any refunds or
steps with the same numbers, whatever came of each, no question and no further refund or step tells
the two apart: they are in one status, their amounts are equal numbers, and whatever is refused,
overflows or is accepted of one is so of the other. -/
theorem scales_never_matter {amount amount' : Decimal} (h : amount ≈ amount') :
    (∀ currency,
      Outcome.Agree Ledger.Alike (Ledger.inCurrency amount currency)
          (Ledger.inCurrency amount' currency) ∧
        ∀ l m, Ledger.inCurrency amount currency = .ok l →
          Ledger.inCurrency amount' currency = .ok m →
          ∀ rs rs', List.Forall₂ (fun r r' => r ≈ r') rs rs' →
            (l.attemptAll rs).Indistinguishable (m.attemptAll rs')) ∧
      ∀ orderId reference payer payee now,
        Outcome.Agree Alike (create orderId amount reference payer payee now)
            (create orderId amount' reference payer payee now) ∧
          ∀ p q, create orderId amount reference payer payee now = .ok p →
            create orderId amount' reference payer payee now = .ok q →
            ∀ ts us, List.Forall₂ Transition.Alike ts us →
              (p.attemptAll ts).Indistinguishable (q.attemptAll us) := by
  refine ⟨fun currency => ?_, fun orderId reference payer payee now => ?_⟩
  · have hopen := Ledger.agree_inCurrency h currency
    refine ⟨hopen, fun l m hl hm rs rs' hrs => ?_⟩
    rw [hl, hm] at hopen
    cases hopen with
    | ok halike => exact (halike.attemptAll hrs).indistinguishable
  · have hcreate := agree_create h orderId reference payer payee now
    refine ⟨hcreate, fun p q hp hq ts us htus => ?_⟩
    rw [hp, hq] at hcreate
    cases hcreate with
    | ok halike => exact (halike.attemptAll htus).indistinguishable

/-- Ten thousand with cents and without, of which a quarter is given back, with cents and
without. -/
theorem scales_never_matter_of_cents :
    let whole : Decimal := ⟨false, 10000, 0, by decide, by decide⟩
    let cents : Decimal := ⟨false, 1000000, 2, by decide, by decide⟩
    let quarter : Decimal := ⟨false, 2500, 0, by decide, by decide⟩
    let quarterCents : Decimal := ⟨false, 250000, 2, by decide, by decide⟩
    whole ≠ cents ∧
      (Sample.reduced whole quarter).Indistinguishable (Sample.reduced cents quarterCents) ∧
      (Sample.reduced whole quarter).status = .partiallyRefunded := by
  intro whole cents quarter quarterCents
  have hsame : whole ≈ cents := by decide +kernel
  have hquarter : quarter ≈ quarterCents := by decide +kernel
  have hsteps :
      List.Forall₂ Transition.Alike (Sample.steps quarter) (Sample.steps quarterCents) :=
    .cons (.same _) (.cons (.same _) (.cons (.startRefund hquarter _)
      (.cons (.completeRefund hquarter _ _) .nil)))
  obtain ⟨-, hpayments⟩ := scales_never_matter hsame
  obtain ⟨-, hindistinguishable⟩ := hpayments "order-1" (Sample.created whole).reference
    (Sample.created whole).payer (Sample.created whole).payee Sample.noon
  refine ⟨by decide, ?_, by decide +kernel⟩
  exact hindistinguishable _ _ (Sample.create_eq whole (by decide))
    (Sample.create_eq cents (by decide)) _ _ hsteps

end Payment

end Payments
