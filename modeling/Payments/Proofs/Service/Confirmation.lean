import Payments.Proofs.Service.Registering

/-!
# Payments.Proofs.Service.Confirmation -- a registration that the gateway confirms

If a registration names all that it has to, and the gateway's account confirms it, then there is
nothing left for which the payment could be turned down: it is drafted, found to be for the amount
expected and approved in time, and goes to the store as verified. What becomes of the registration
is then decided by the store alone (`Service.Settlement.of_confirmed`).
-/

namespace Payments

/-- The registration names all that it has to, and an amount that can be paid. -/
structure Registration.IsComplete (r : Registration) : Prop where
  filled : ∀ text ∈ [r.orderId, r.provider, r.gatewayPaymentId, r.payerCompanyId, r.payerName,
    r.payeeCompanyId, r.payeeName], Text.isBlankText text = false
  positive : Decimal.zero < r.expectedAmount

namespace Gateway.PaymentAnswer

/-- Whether the money has been taken, and as much of it as expected. -/
def confirms (account : PaymentAnswer) (r : Registration) : Bool :=
  account.status == .done && decide (account.totalAmount ≈ r.expectedAmount)

/-- Whether the approval is less than an hour old. -/
def isFreshAt (account : PaymentAnswer) (s : Instant) : Bool :=
  match s.hourBefore?, account.approvedAt with
  | some earliest, some approvedAt => decide (earliest < approvedAt)
  | _, _ => false

theorem isFreshAt_iff {account : PaymentAnswer} {s : Instant} {reference : Reference}
    (h : reference.approvedAt = account.approvedAt) :
    reference.isApprovalFresh s = .ok true ↔ account.isFreshAt s = true := by
  unfold Reference.isApprovalFresh isFreshAt
  rw [h]
  cases s.hourBefore? with
  | none => simp
  | some earliest => cases account.approvedAt <;> simp

end Gateway.PaymentAnswer

/-- What time the call was told, if it asked. -/
def Reply.instant? : Reply → Option Instant
  | ⟨.now, s⟩ => some s
  | _ => none

namespace Service

variable {r : Registration} {account : Gateway.PaymentAnswer} {d : List Reply}
  {rest : Procedure (Outcome Payment)}

/-- The instant at which the approval is checked: the second time that the call looks at the clock.
-/
def checkedAt? (d : List Reply) : Option Instant :=
  (d.filterMap Reply.instant?)[1]?

/-- Whether every account that the gateway gave in the dialogue confirms the registration, with an
approval that is fresh when it is checked. -/
def confirmed (r : Registration) (d : List Reply) : Bool :=
  d.all fun
    | ⟨.lookup _, .ok account⟩ => account.confirms r && (checkedAt? d).all account.isFreshAt
    | ⟨.lookup _, .error _⟩ => false
    | _ => true

theorem confirmed_lookup (h : confirmed r d = true) {key : String}
    {answer : Except GatewayError Gateway.PaymentAnswer} (ha : ⟨.lookup key, answer⟩ ∈ d) :
    ∃ account, answer = .ok account ∧ account.confirms r = true ∧
      ∀ s, checkedAt? d = some s → account.isFreshAt s = true := by
  have hanswer := List.all_eq_true.1 h _ ha
  cases answer with
  | error e => cases hanswer
  | ok account =>
    obtain ⟨hconfirms, hfresh⟩ := Bool.and_eq_true_iff.1 hanswer
    refine ⟨account, rfl, hconfirms, ?_⟩
    intro s hs
    rw [hs] at hfresh
    exact hfresh

theorem checkApproved_of_confirms (h : account.confirms r = true) :
    checkApproved account.status = .ok () := by
  have hdone : account.status = .done := beq_iff_eq.1 (Bool.and_eq_true_iff.1 h).1
  rw [hdone]
  rfl

theorem draft_of_confirms (hr : r.IsComplete) (h : account.confirms r = true) (now : Instant) :
    ∃ p, draft r account now = .ok p := by
  have hamount : account.totalAmount ≈ r.expectedAmount :=
    of_decide_eq_true (Bool.and_eq_true_iff.1 h).2
  have hpositive : ¬ account.totalAmount ≤ Decimal.zero := by
    have hpos := hr.positive
    rw [Decimal.lt_iff_units] at hpos
    rw [Decimal.le_iff_units, Decimal.equiv_iff_units.1 hamount]
    omega
  have text (field : String) {value : String} (hv : value ∈ [r.orderId, r.provider,
      r.gatewayPaymentId, r.payerCompanyId, r.payerName, r.payeeCompanyId, r.payeeName]) :
      requireText field value = .ok value :=
    requireText_eq_ok.2 ⟨hr.filled value hv, rfl⟩
  obtain ⟨reference, href⟩ : ∃ reference, Gateway.Reference.create r.provider r.gatewayPaymentId
      (some r.paymentKey) account.transactionKey account.approvedAt = .ok reference :=
    ⟨_, Except.bind_eq_ok.2 ⟨_, text _ (by simp), Except.bind_eq_ok.2 ⟨_, text _ (by simp), rfl⟩⟩⟩
  obtain ⟨payer, hpayer⟩ : ∃ payer, Payer.create r.payerCompanyId r.payerName r.payerEmail
      r.payerPhone = .ok payer :=
    ⟨_, Except.bind_eq_ok.2 ⟨_, text _ (by simp), Except.bind_eq_ok.2 ⟨_, text _ (by simp), rfl⟩⟩⟩
  obtain ⟨payee, hpayee⟩ : ∃ payee, Payee.create r.payeeCompanyId r.payeeName = .ok payee :=
    ⟨_, Except.bind_eq_ok.2 ⟨_, text _ (by simp), Except.bind_eq_ok.2 ⟨_, text _ (by simp), rfl⟩⟩⟩
  obtain ⟨ledger, hledger⟩ : ∃ ledger, Ledger.ofAmount account.totalAmount = .ok ledger :=
    ⟨_, if_neg hpositive⟩
  obtain ⟨created, hcreated, hpending⟩ : ∃ created, Payment.create r.orderId account.totalAmount
      reference payer payee now = .ok created ∧ created.status = .pending :=
    ⟨_, Except.bind_eq_ok.2 ⟨_, text _ (by simp), Except.bind_eq_ok.2 ⟨ledger, hledger, rfl⟩⟩, rfl⟩
  exact ⟨_, Except.bind_eq_ok.2 ⟨reference, href, Except.bind_eq_ok.2 ⟨payer, hpayer,
    Except.bind_eq_ok.2 ⟨payee, hpayee, Except.bind_eq_ok.2 ⟨created, hcreated,
      Payment.startVerification_eq_ok.2 ⟨hpending, rfl⟩⟩⟩⟩⟩⟩

theorem assess_of_confirms {p : Payment} {t₁ t₂ : Instant} (h : account.confirms r = true)
    (hfresh : account.isFreshAt t₁ = true) (hp : Portrays r account p) :
    ∃ v, assess p r.expectedAmount t₁ t₂ = .ok v := by
  have hamount : p.ledger.isFor r.expectedAmount = true := by
    rw [Ledger.isFor, hp.amount]
    exact (Bool.and_eq_true_iff.1 h).2
  refine ⟨_, Except.bind_eq_ok.2 ⟨(), ?_, Payment.verify_eq_ok.2 ⟨hp.status, ?_, rfl⟩⟩⟩
  · rw [Payment.validateAmount, if_pos hamount]
  · exact (Gateway.PaymentAnswer.isFreshAt_iff hp.approvedAt).2 hfresh

/-- A registration that is confirmed waits for an answer, or it has come to insert its payment. -/
theorem Settlement.of_confirmed (hr : r.IsComplete) (hd : confirmed r (keysFree r ++ d) = true)
    (h : Settlement r d rest) :
    (∃ q next, rest = .ask q next) ∨
      ∃ account times v d', d = consulted r account times ++ d' ∧ Insertion v d' rest := by
  -- what the gateway says is what was confirmed
  have hlookup {answer : Except GatewayError Gateway.PaymentAnswer}
      (ha : ⟨.lookup r.paymentKey, answer⟩ ∈ d) :=
    confirmed_lookup hd (List.mem_append_right (keysFree r) ha)
  -- so is when it was asked for the time
  have hassess {account : Gateway.PaymentAnswer} {t₀ t₁ t₂ : Instant} {p : Payment}
      {d' : List Reply} (he : d = consulted r account [t₀, t₁, t₂] ++ d')
      (hdraft : draft r account t₀ = .ok p) : ∃ v, assess p r.expectedAmount t₁ t₂ = .ok v := by
    subst he
    obtain ⟨account, ha, hconfirms, hfresh⟩ := hlookup List.mem_cons_self
    cases ha
    exact assess_of_confirms hconfirms (hfresh t₁ rfl) (portrays_of_draft hdraft)
  cases h with
  | consulting | timing => exact Or.inl ⟨_, _, rfl⟩
  | unavailable e =>
    obtain ⟨account, ha, -⟩ := hlookup List.mem_cons_self
    cases ha
  | unapproved h =>
    obtain ⟨account, ha, hconfirms, -⟩ := hlookup List.mem_cons_self
    cases ha
    cases h.symm.trans (checkApproved_of_confirms hconfirms)
  | @undrafted _ t₀ _ h =>
    obtain ⟨account, ha, hconfirms, -⟩ := hlookup List.mem_cons_self
    cases ha
    obtain ⟨p, hp⟩ := draft_of_confirms hr hconfirms t₀
    cases h.symm.trans hp
  | unassessed hdraft h =>
    obtain ⟨v, hv⟩ := hassess (List.append_nil _).symm hdraft
    cases h.symm.trans hv
  | failed hdraft h =>
    obtain ⟨v, hv⟩ := hassess rfl hdraft
    cases h.symm.trans hv
  | verified _ _ h => exact Or.inr ⟨_, _, _, _, rfl, h⟩

end Service

end Payments
