import Payments.Proofs.Service.Confirmation

/-!
# Payments.Proofs.Service.Objections -- what speaks against a registration

A registration is judged three times once the gateway has answered. The state of the payment at the
gateway may forbid it (`Gateway.Status.refusal`); a text may be missing or the amount not positive,
so that no payment can be drafted (`Registration.defect`); and the payment that was drafted may be
for another amount than expected, or approved too long ago (`Registration.objection`). Each list
gives the first objection only, in the order in which the checks are made, and each check of the
service is shown to be its list (`Service.checkApproved_eq`, `Service.draft_eq`,
`Service.assess_eq`). The draft is told in full as well (`Registration.payment`).

A fourth thing could go wrong: within the first hour of the calendar there is no instant one hour
before, so the age of the approval could not be told. Every clock that has left the first year of
the calendar behind, some 264000 years ago, is safe from that (`Instant.exists_hourBefore?`).
-/

namespace Payments

/-! ## The state at the gateway -/

/-- Why a payment in this state cannot be registered, if it cannot. -/
def Gateway.Status.refusal : Gateway.Status → Option PaymentError
  | .done => none
  | .canceled | .partialCanceled => some .paymentAlreadyProcessed
  | .aborted => some (.paymentVerificationFailed "PG payment ended in ABORTED status")
  | .expired => some (.paymentVerificationFailed "PG payment ended in EXPIRED status")
  | .ready => some (.notApproved "READY")
  | .inProgress => some (.notApproved "IN_PROGRESS")
  | .waitingForDeposit => some (.notApproved "WAITING_FOR_DEPOSIT")
  | .unknown => some (.notApproved "UNKNOWN")

theorem Service.checkApproved_eq (s : Gateway.Status) :
    checkApproved s =
      match s.refusal with
      | some e => Payments.refuse e
      | none => .ok () := by
  cases s <;> rfl

/-! ## Mandatory texts -/

/-- The result, unless one of the texts is blank; then the first such field is refused. -/
def demand {α : Type} (fields : List (String × String)) (o : Outcome α) : Outcome α :=
  match fields.find? fun field => Text.isBlankText field.2 with
  | some field => refuse (.invalidValue field.1)
  | none => o

theorem requireText_bind {α : Type} (field text : String) (f : String → Outcome α) :
    (requireText field text >>= f) = demand [(field, text)] (f text) := by
  unfold requireText demand
  rw [List.find?_singleton]
  cases Text.isBlankText text <;> rfl

theorem demand_demand {α : Type} (fields others : List (String × String)) (o : Outcome α) :
    demand fields (demand others o) = demand (fields ++ others) o := by
  unfold demand
  rw [List.find?_append]
  cases fields.find? fun field => Text.isBlankText field.2 <;> rfl

theorem demand_bind {α β : Type} (fields : List (String × String)) (o : Outcome α)
    (f : α → Outcome β) : (demand fields o >>= f) = demand fields (o >>= f) := by
  unfold demand
  cases fields.find? fun field => Text.isBlankText field.2 <;> rfl

/-- The texts that a registration has to give, in the order in which they are looked at. -/
def Registration.fields (r : Registration) : List (String × String) :=
  [("pg_provider", r.provider), ("pg_payment_id", r.gatewayPaymentId),
    ("payer_company_id", r.payerCompanyId), ("payer_name", r.payerName),
    ("payee_company_id", r.payeeCompanyId), ("payee_name", r.payeeName), ("order_id", r.orderId)]

/-- What is wrong with a registration and the gateway's account of it, if anything: the first field
that is blank, or else an amount that is not positive. -/
def Registration.defect (r : Registration) (account : Gateway.PaymentAnswer) :
    Option PaymentError :=
  match r.fields.find? fun field => Text.isBlankText field.2 with
  | some field => some (.invalidValue field.1)
  | none =>
    if account.totalAmount ≤ Decimal.zero then
      some (.invalidAmount s!"payment amount must be positive, got {account.totalAmount.toText}")
    else none

/-- The payment that a registration and the gateway's account of it describe, in verification. -/
def Registration.payment (r : Registration) (account : Gateway.PaymentAnswer)
    (createdAt : Instant) : Payment where
  id := none
  orderId := r.orderId
  ledger := ⟨account.totalAmount, Decimal.zero, Ledger.defaultCurrency⟩
  reference :=
    { provider := r.provider
      paymentId := r.gatewayPaymentId
      paymentKey := some r.paymentKey
      transactionId := account.transactionKey
      approvedAt := account.approvedAt
      refundId := none
      refundedAt := none }
  payer := ⟨r.payerCompanyId, r.payerName, r.payerEmail, r.payerPhone⟩
  payee := ⟨r.payeeCompanyId, r.payeeName⟩
  status := .verifying
  verification := .pending
  failureReason := none
  refundReason := none
  createdAt := createdAt
  verifiedAt := none
  refundedAt := none
  updatedAt := none
  deletion := none
  version := 0

theorem Ledger.ofAmount_eq (amount : Decimal) :
    ofAmount amount =
      if amount ≤ Decimal.zero then
        refuse (.invalidAmount s!"payment amount must be positive, got {amount.toText}")
      else .ok ⟨amount, Decimal.zero, defaultCurrency⟩ := by
  have htrim : Text.trim defaultCurrency = defaultCurrency := by decide +kernel
  unfold ofAmount inCurrency
  rw [htrim]
  rfl

namespace Service

theorem draft_eq (r : Registration) (account : Gateway.PaymentAnswer) (now : Instant) :
    draft r account now =
      match r.defect account with
      | some e => Payments.refuse e
      | none => .ok (r.payment account now) := by
  have hdemand : draft r account now =
      demand r.fields (Ledger.ofAmount account.totalAmount >>= fun ledger =>
        .ok { r.payment account now with ledger := ledger }) := by
    unfold draft Gateway.Reference.create Payer.create Payee.create Payment.create
    simp only [requireText_bind, demand_bind, demand_demand, Except.ok_bind, List.cons_append,
      List.nil_append]
    rw [Registration.fields]
    congr 1
    cases Ledger.ofAmount account.totalAmount <;> rfl
  rw [hdemand, Ledger.ofAmount_eq, Registration.defect, demand]
  cases r.fields.find? fun field => Text.isBlankText field.2 with
  | some field => rfl
  | none =>
    dsimp only
    split <;> rfl

end Service

/-! ## The clock -/

theorem Date.exists_pred? {d : Date} (h : -262143 < d.year) : ∃ e, d.pred? = some e := by
  obtain ⟨-, hyear, hmonth, hmonth', hday, hday'⟩ := d.isDay
  have hdays (year : Int) (month : Nat) : 1 ≤ daysInMonth year month := by
    unfold daysInMonth
    split
    · split <;> decide
    · split <;> decide
  unfold pred? of?
  split
  · exact ⟨_, dif_pos ⟨by omega, hyear, hmonth, hmonth', by omega, by omega⟩⟩
  · split
    · exact ⟨_, dif_pos ⟨by omega, hyear, by omega, by omega, hdays _ _, Nat.le_refl _⟩⟩
    · exact ⟨_, dif_pos ⟨by omega, by omega, by decide, by decide, by decide, Nat.le_refl 31⟩⟩

namespace Instant

theorem exists_shiftSecond? {date : Date} (h : -262143 < date.year) {second : Nat}
    (hsecond : second < 86400) (shift : Int) (hshift : -86400 ≤ shift) (hback : shift ≤ 0) :
    ∃ date' second', shiftSecond? date second shift = some (date', second') ∧
      second' < 86400 := by
  obtain ⟨before, hbefore⟩ := Date.exists_pred? h
  unfold shiftSecond?
  simp only [hbefore]
  split
  · exact ⟨before, _, rfl, by omega⟩
  · rw [if_neg (by omega)]
    exact ⟨date, _, rfl, by omega⟩

/-- After the first year of the calendar there is always an hour before. -/
theorem exists_hourBefore? {t : Instant} (h : -262143 < t.date.year) :
    ∃ earlier, t.hourBefore? = some earlier := by
  have hnano := t.nano_lt
  unfold hourBefore?
  split
  · obtain ⟨date, second, heq, hsecond⟩ :=
      exists_shiftSecond? h t.second_lt (-3600) (by decide) (by decide)
    simp only [heq]
    exact ⟨_, dif_pos ⟨hsecond, hnano⟩⟩
  · obtain ⟨date, second, heq, hsecond⟩ :=
      exists_shiftSecond? h t.second_lt (-3599) (by decide) (by decide)
    simp only [heq]
    exact ⟨_, dif_pos ⟨hsecond, by omega⟩⟩

end Instant

/-! ## The amount and the approval -/

/-- Why a payment that can be registered is not verified, if it is not: it is for another amount, or
its approval is not fresh. -/
def Registration.objection (r : Registration) (account : Gateway.PaymentAnswer)
    (checkedAt : Instant) : Option PaymentError :=
  if ¬ account.totalAmount ≈ r.expectedAmount then
    some (.amountMismatch account.totalAmount r.expectedAmount)
  else if account.isFreshAt checkedAt then none
  else some (.paymentExpired account.approvedAt)

namespace Registration

variable (r : Registration) (account : Gateway.PaymentAnswer) (createdAt : Instant)

/-- The payment that has passed its verification. -/
def verified (verifiedAt : Instant) : Payment :=
  { r.payment account createdAt with
    status := .verified
    verification := .success
    verifiedAt := some verifiedAt }

/-- The payment that has failed its verification. -/
def turnedDown (cause : PaymentError) : Payment :=
  { r.payment account createdAt with
    status := .verificationFailed
    verification := .failed
    failureReason := some cause.message }

end Registration

namespace Service

variable {r : Registration} {account : Gateway.PaymentAnswer}

theorem isApprovalFresh_eq (createdAt : Instant) {checkedAt earlier : Instant}
    (h : checkedAt.hourBefore? = some earlier) :
    (r.payment account createdAt).reference.isApprovalFresh checkedAt =
      .ok (account.isFreshAt checkedAt) := by
  unfold Gateway.Reference.isApprovalFresh Gateway.PaymentAnswer.isFreshAt Registration.payment
  rw [h]
  cases account.approvedAt <;> rfl

theorem assess_eq (createdAt : Instant) {checkedAt earlier : Instant}
    (h : checkedAt.hourBefore? = some earlier) (now : Instant) :
    assess (r.payment account createdAt) r.expectedAmount checkedAt now =
      match r.objection account checkedAt with
      | some e => Payments.refuse e
      | none => .ok (r.verified account createdAt now) := by
  unfold assess Payment.validateAmount Payment.verify Registration.objection
  by_cases hamount : account.totalAmount ≈ r.expectedAmount
  · have hfor : (r.payment account createdAt).ledger.isFor r.expectedAmount = true :=
      decide_eq_true hamount
    rw [if_pos hfor, if_neg (not_not_intro hamount)]
    simp only [isApprovalFresh_eq createdAt h, Except.ok_bind, Payment.requireStatus]
    cases account.isFreshAt checkedAt <;> rfl
  · have hfor : ¬ (r.payment account createdAt).ledger.isFor r.expectedAmount = true := by
      rw [Ledger.isFor, decide_eq_true_iff]
      exact hamount
    rw [if_neg hfor, if_pos hamount]
    rfl

end Service

end Payments
