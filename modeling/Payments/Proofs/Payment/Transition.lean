import Payments.Payment
import Payments.Proofs.Outcome

/-!
# Payments.Proofs.Payment.Transition -- the steps of a payment's life as values

The seven steps of a payment's life, as values of one type, so that something can be said of every
sequence of steps. Each step has one lemma that says exactly when it is accepted and what it then
makes of the payment; what all steps have in common is derived from these lemmas and not from the
definitions. `Payment.SameOrigin` is what no step changes.
-/

namespace Payments

theorem requireText_eq_ok {field value text : String} :
    requireText field value = .ok text ↔ Text.isBlankText value = false ∧ text = value := by
  unfold requireText
  cases h : Text.isBlankText value with
  | true => exact ⟨fun hr => (nomatch hr), fun hr => (nomatch hr.1)⟩
  | false =>
    show Except.ok value = _ ↔ _
    rw [Except.ok.injEq, eq_comm (b := text)]
    exact ⟨fun ht => ⟨rfl, ht⟩, fun ht => ht.2⟩

namespace Ledger

/-- A ledger is opened for a positive amount, with nothing refunded. -/
theorem ofAmount_eq_ok {amount : Decimal} {l : Ledger} (h : ofAmount amount = .ok l) :
    ¬ amount ≤ Decimal.zero ∧ l.amount = amount ∧ l.refunded = Decimal.zero := by
  unfold ofAmount inCurrency at h
  split at h
  · cases h
  · next hpos =>
    cases h
    exact ⟨hpos, rfl, rfl⟩

/-- A refund adds to what was refunded and leaves the rest of the ledger alone. -/
theorem refund_eq_ok {l m : Ledger} {amount : Decimal} :
    l.refund amount = .ok m ↔
      ¬ amount ≤ Decimal.zero ∧
        ∃ total, l.refunded.add? amount = some total ∧ ¬ l.amount < total ∧
          m = { l with refunded := total } := by
  unfold refund
  constructor
  · intro h
    split at h
    · cases h
    · next hpos =>
      split at h
      · cases h
      · next total hadd =>
        split at h
        · cases h
        · next hle =>
          cases h
          exact ⟨hpos, total, hadd, hle, rfl⟩
  · rintro ⟨hpos, total, hadd, hle, rfl⟩
    simp only [if_neg hpos, hadd, if_neg hle]

end Ledger

namespace Payment

/-! ## What the steps do -/

/-- A payment is created with nothing done to it, neither in its life nor by a store. -/
theorem create_eq_ok {orderId : String} {amount : Decimal} {reference : Gateway.Reference}
    {payer : Payer} {payee : Payee} {now : Instant} {p : Payment}
    (h : create orderId amount reference payer payee now = .ok p) :
    ∃ ledger, Ledger.ofAmount amount = .ok ledger ∧
      p =
        { id := none
          orderId, ledger, reference, payer, payee
          status := .pending
          verification := .pending
          failureReason := none
          refundReason := none
          createdAt := now
          verifiedAt := none
          refundedAt := none
          updatedAt := none
          deletion := none
          version := 0 } := by
  obtain ⟨text, ht, hrest⟩ := Except.bind_eq_ok.1 h
  obtain ⟨ledger, hl, hp⟩ := Except.bind_eq_ok.1 hrest
  obtain ⟨-, rfl⟩ := requireText_eq_ok.1 ht
  exact ⟨ledger, hl, (Except.ok.inj hp).symm⟩

/-- A step that needs one status is its continuation in that status and is refused in all others. -/
theorem requireStatus_bind_eq_ok {p q : Payment} {required : Status} {operation : Operation}
    {f : Unit → Outcome Payment} :
    (p.requireStatus required operation >>= f) = .ok q ↔
      p.status = required ∧ f () = .ok q := by
  unfold requireStatus
  split
  · next h => exact ⟨fun hf => ⟨h, hf⟩, fun hf => hf.2⟩
  · next h => exact ⟨fun hr => (nomatch hr), fun hf => absurd hf.1 h⟩

theorem startVerification_eq_ok {p q : Payment} :
    p.startVerification = .ok q ↔ p.status = .pending ∧ q = { p with status := .verifying } := by
  rw [startVerification, requireStatus_bind_eq_ok, Except.ok.injEq, eq_comm (b := q)]

theorem verify_eq_ok {p q : Payment} {checkedAt now : Instant} :
    p.verify checkedAt now = .ok q ↔
      p.status = .verifying ∧ p.reference.isApprovalFresh checkedAt = .ok true ∧
        q = { p with status := .verified, verification := .success, verifiedAt := some now } := by
  rw [verify, requireStatus_bind_eq_ok]
  apply and_congr_right
  intro _
  cases h : p.reference.isApprovalFresh checkedAt with
  | error f => exact ⟨fun hr => (nomatch hr), fun hr => (nomatch hr.1)⟩
  | ok fresh =>
    cases fresh with
    | false => exact ⟨fun hr => (nomatch hr), fun hr => (nomatch hr.1)⟩
    | true =>
      show Except.ok _ = Except.ok q ↔ _
      rw [Except.ok.injEq, eq_comm (b := q)]
      exact ⟨fun hq => ⟨rfl, hq⟩, fun hq => hq.2⟩

theorem failVerification_eq_ok {p q : Payment} {reason : String} :
    p.failVerification reason = .ok q ↔
      p.status = .verifying ∧
        q = { p with
          status := .verificationFailed
          verification := .failed
          failureReason := some reason } := by
  rw [failVerification, requireStatus_bind_eq_ok, Except.ok.injEq, eq_comm (b := q)]

theorem startRefund_eq_ok {p q : Payment} {amount : Decimal} {reason : String} :
    p.startRefund amount reason = .ok q ↔
      p.status.isRefundable = true ∧ ¬ amount ≤ Decimal.zero ∧
        (∃ left, p.ledger.refundable = .ok left ∧ ¬ left < amount) ∧
        q = { p with status := .refunding, refundReason := some reason } := by
  unfold startRefund
  cases hs : p.status.isRefundable with
  | false => exact ⟨fun hr => (nomatch hr), fun hr => (nomatch hr.1)⟩
  | true =>
    simp only [Bool.not_true, Bool.false_eq_true, if_false, true_and]
    by_cases hpos : amount ≤ Decimal.zero
    · rw [if_pos hpos]
      exact ⟨fun hr => (nomatch hr), fun hr => absurd hpos hr.1⟩
    · rw [if_neg hpos]
      cases hl : p.ledger.refundable with
      | error f => exact ⟨fun hr => (nomatch hr), fun ⟨_, ⟨_, hr, _⟩, _⟩ => (nomatch hr)⟩
      | ok left =>
        show (if left < amount then _ else _) = _ ↔ _
        split
        · next hlt =>
          refine ⟨fun hr => (nomatch hr), fun ⟨_, ⟨_, hr, hle⟩, _⟩ => ?_⟩
          cases hr
          exact absurd hlt hle
        · next hle =>
          rw [Except.ok.injEq, eq_comm (b := q)]
          exact ⟨fun hq => ⟨hpos, ⟨left, rfl, hle⟩, hq⟩, fun hq => hq.2.2⟩

theorem completeRefund_eq_ok {p q : Payment} {amount : Decimal} {refundId : String}
    {now : Instant} :
    p.completeRefund amount refundId now = .ok q ↔
      p.status = .refunding ∧
        ∃ ledger, p.ledger.refund amount = .ok ledger ∧
          q = { p with
            reference := p.reference.addRefund refundId now
            status := if ledger.isFullyRefunded then .refunded else .partiallyRefunded
            ledger
            refundedAt := some now } := by
  rw [completeRefund, requireStatus_bind_eq_ok]
  apply and_congr_right
  intro _
  cases h : p.ledger.refund amount with
  | error f => exact ⟨fun hr => (nomatch hr), fun ⟨_, hr, _⟩ => (nomatch hr)⟩
  | ok ledger =>
    show Except.ok _ = Except.ok q ↔ _
    rw [Except.ok.injEq, eq_comm (b := q)]
    refine ⟨fun hq => ⟨ledger, rfl, hq⟩, fun ⟨_, hr, hq⟩ => ?_⟩
    cases hr
    exact hq

theorem failRefund_eq_ok {p q : Payment} {reason : String} :
    p.failRefund reason = .ok q ↔
      p.status = .refunding ∧
        q = { p with status := .refundFailed, failureReason := some reason } := by
  rw [failRefund, requireStatus_bind_eq_ok, Except.ok.injEq, eq_comm (b := q)]

theorem cancel_eq_ok {p q : Payment} {reason : String} :
    p.cancel reason = .ok q ↔
      p.status.isFinal = false ∧
        q = { p with status := .cancelled, refundReason := some reason } := by
  unfold cancel
  cases hs : p.status.isFinal with
  | true => exact ⟨fun hr => (nomatch hr), fun hr => (nomatch hr.1)⟩
  | false =>
    simp only [Bool.false_eq_true, if_false, true_and]
    rw [Except.ok.injEq, eq_comm (b := q)]

/-! ## Steps as values -/

/-- A step of a payment's life, with all that it is given. -/
inductive Transition where
  | startVerification
  | verify (checkedAt now : Instant)
  | failVerification (reason : String)
  | startRefund (amount : Decimal) (reason : String)
  | completeRefund (amount : Decimal) (refundId : String) (now : Instant)
  | failRefund (reason : String)
  | cancel (reason : String)

/-- Takes the step. -/
def Transition.apply (p : Payment) : Transition → Outcome Payment
  | startVerification => p.startVerification
  | verify checkedAt now => p.verify checkedAt now
  | failVerification reason => p.failVerification reason
  | startRefund amount reason => p.startRefund amount reason
  | completeRefund amount refundId now => p.completeRefund amount refundId now
  | failRefund reason => p.failRefund reason
  | cancel reason => p.cancel reason

/-- The payment after a step was tried: one that is not taken leaves it as it was. -/
def attempt (p : Payment) (t : Transition) : Payment :=
  match t.apply p with
  | .ok q => q
  | .error _ => p

/-- The payment after steps were tried one after another. -/
def attemptAll (p : Payment) (ts : List Transition) : Payment :=
  ts.foldl attempt p

/-- `q` says what `p` says about where the payment comes from, how it is stored and for how much it
is. -/
structure SameOrigin (p q : Payment) : Prop where
  id : q.id = p.id
  orderId : q.orderId = p.orderId
  amount : q.ledger.amount = p.ledger.amount
  currency : q.ledger.currency = p.ledger.currency
  provider : q.reference.provider = p.reference.provider
  gatewayPaymentId : q.reference.paymentId = p.reference.paymentId
  paymentKey : q.reference.paymentKey = p.reference.paymentKey
  transactionId : q.reference.transactionId = p.reference.transactionId
  approvedAt : q.reference.approvedAt = p.reference.approvedAt
  payer : q.payer = p.payer
  payee : q.payee = p.payee
  createdAt : q.createdAt = p.createdAt
  updatedAt : q.updatedAt = p.updatedAt
  deletion : q.deletion = p.deletion
  version : q.version = p.version

theorem SameOrigin.refl (p : Payment) : p.SameOrigin p := by
  constructor <;> rfl

theorem SameOrigin.trans {p q r : Payment} (hpq : p.SameOrigin q) (hqr : q.SameOrigin r) :
    p.SameOrigin r where
  id := hqr.id.trans hpq.id
  orderId := hqr.orderId.trans hpq.orderId
  amount := hqr.amount.trans hpq.amount
  currency := hqr.currency.trans hpq.currency
  provider := hqr.provider.trans hpq.provider
  gatewayPaymentId := hqr.gatewayPaymentId.trans hpq.gatewayPaymentId
  paymentKey := hqr.paymentKey.trans hpq.paymentKey
  transactionId := hqr.transactionId.trans hpq.transactionId
  approvedAt := hqr.approvedAt.trans hpq.approvedAt
  payer := hqr.payer.trans hpq.payer
  payee := hqr.payee.trans hpq.payee
  createdAt := hqr.createdAt.trans hpq.createdAt
  updatedAt := hqr.updatedAt.trans hpq.updatedAt
  deletion := hqr.deletion.trans hpq.deletion
  version := hqr.version.trans hpq.version

theorem Transition.sameOrigin {t : Transition} {p q : Payment} (h : t.apply p = .ok q) :
    p.SameOrigin q := by
  cases t with
  | startVerification =>
    obtain ⟨-, rfl⟩ := startVerification_eq_ok.1 h
    constructor <;> rfl
  | verify checkedAt now =>
    obtain ⟨-, -, rfl⟩ := verify_eq_ok.1 h
    constructor <;> rfl
  | failVerification reason =>
    obtain ⟨-, rfl⟩ := failVerification_eq_ok.1 h
    constructor <;> rfl
  | startRefund amount reason =>
    obtain ⟨-, -, -, rfl⟩ := startRefund_eq_ok.1 h
    constructor <;> rfl
  | completeRefund amount refundId now =>
    obtain ⟨-, ledger, hl, rfl⟩ := completeRefund_eq_ok.1 h
    obtain ⟨-, total, -, -, rfl⟩ := Ledger.refund_eq_ok.1 hl
    constructor <;> rfl
  | failRefund reason =>
    obtain ⟨-, rfl⟩ := failRefund_eq_ok.1 h
    constructor <;> rfl
  | cancel reason =>
    obtain ⟨-, rfl⟩ := cancel_eq_ok.1 h
    constructor <;> rfl

theorem sameOrigin_attempt (p : Payment) (t : Transition) : p.SameOrigin (p.attempt t) := by
  unfold attempt
  split
  · next q h => exact t.sameOrigin h
  · exact .refl p

/-- No sequence of steps changes where a payment comes from. -/
theorem sameOrigin_attemptAll (p : Payment) (ts : List Transition) :
    p.SameOrigin (p.attemptAll ts) := by
  induction ts generalizing p with
  | nil => exact .refl p
  | cons t ts ih => exact (p.sameOrigin_attempt t).trans (ih (p.attempt t))

end Payment

end Payments
