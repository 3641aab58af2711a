import Payments.Gateway.Reference
import Payments.Ledger
import Payments.Party
import Payments.PaymentId

/-!
# Payments.Payment -- a payment and the steps of its life

A payment belongs to an order, names its payer and payee, points to its counterpart at the gateway
and carries a ledger and a status. Its life is a walk through the status graph; every step checks
first and changes afterwards, so a refused step changes nothing.

The store adds what it needs: an identity, given once, a version that grows with every stored
change, and a mark for deleted payments, which are kept.

A step that depends on the time takes the clock readings it uses as arguments.
-/

namespace Payments

/-- Who deleted a payment, and when. -/
structure Deletion where
  deletedBy : String
  deletedAt : Instant
deriving DecidableEq

/-- Deletions in JSON. -/
def Deletion.codec : Json.Codec Deletion :=
  .record
    (.cons (.required "deleted_by" .text Deletion.deletedBy) <|
      .cons (.required "deleted_at" Instant.codec Deletion.deletedAt) .nil)
    fun (deletedBy, deletedAt, ()) => .ok { deletedBy, deletedAt }

/-- A payment. -/
structure Payment where
  id : Option PaymentId
  orderId : String
  ledger : Ledger
  reference : Gateway.Reference
  payer : Payer
  payee : Payee
  status : Status
  verification : Verification
  failureReason : Option String
  refundReason : Option String
  createdAt : Instant
  verifiedAt : Option Instant
  refundedAt : Option Instant
  updatedAt : Option Instant
  deletion : Option Deletion
  version : Nat
deriving DecidableEq

namespace Payment

/-- A new payment of an order. -/
def create (orderId : String) (amount : Decimal) (reference : Gateway.Reference) (payer : Payer)
    (payee : Payee) (now : Instant) : Outcome Payment := do
  let orderId ← requireText "order_id" orderId
  let ledger ← Ledger.ofAmount amount
  .ok
    { id := none
      orderId, ledger, reference, payer, payee
      status := .pending
      verification := .pending
      failureReason := none
      refundReason := none
      createdAt := now
      verifiedAt := none
      refundedAt := none
      updatedAt := none
      deletion := none
      version := 0 }

/-! ## Queries -/

/-- The text of the identity; empty for a payment that has none yet. -/
def idText (p : Payment) : String :=
  match p.id with
  | some id => id.text
  | none => ""

/-- Whether the payment has been deleted. -/
def isDeleted (p : Payment) : Bool :=
  p.deletion.isSome

/-- Whether the payment is verified and nothing has happened since. -/
def isVerified (p : Payment) : Bool :=
  p.status == .verified

/-- Whether a refund may start and there is something left to refund. -/
def isRefundable (p : Payment) : Bool :=
  p.status.isRefundable && p.ledger.isRefundable

/-- Whether the payment has been refunded in full. -/
def isFullyRefunded (p : Payment) : Bool :=
  p.status == .refunded

/-- Whether the payment has been refunded in part. -/
def isPartiallyRefunded (p : Payment) : Bool :=
  p.status == .partiallyRefunded

/-- Whether two payments say the same: equal in everything, amounts compared as numbers. -/
def same (p q : Payment) : Bool :=
  { p with ledger := p.ledger.normalize } == { q with ledger := q.ledger.normalize }

/-! ## Verification -/

/-- Refuses a step that needs a status other than the payment's. -/
def requireStatus (p : Payment) (required : Status) (operation : Operation) : Outcome Unit :=
  if p.status = required then .ok () else refuse (.invalidStatus operation required p.status)

/-- Verification begins. -/
def startVerification (p : Payment) : Outcome Payment := do
  p.requireStatus .pending .startVerification
  .ok { p with status := .verifying }

/-- Verification succeeds, if the approval is still fresh when it is checked. -/
def verify (p : Payment) (checkedAt now : Instant) : Outcome Payment := do
  p.requireStatus .verifying .completeVerification
  if ← p.reference.isApprovalFresh checkedAt then
    .ok { p with status := .verified, verification := .success, verifiedAt := some now }
  else refuse (.paymentExpired p.reference.approvedAt)

/-- Verification fails for a reason. -/
def failVerification (p : Payment) (reason : String) : Outcome Payment := do
  p.requireStatus .verifying .failVerification
  .ok
    { p with
      status := .verificationFailed
      verification := .failed
      failureReason := some reason }

/-- Refuses an amount that the payment is not for. -/
def validateAmount (p : Payment) (expected : Decimal) : Outcome Unit :=
  if p.ledger.isFor expected then .ok () else refuse (.amountMismatch p.ledger.amount expected)

/-! ## Refunds -/

/-- A refund begins: the amount must be positive and left to refund. -/
def startRefund (p : Payment) (amount : Decimal) (reason : String) : Outcome Payment :=
  if !p.status.isRefundable then refuse (.refundNotAllowed p.status)
  else if amount ≤ Decimal.zero then
    refuse (.invalidRefundAmount s!"refund amount must be positive, got {amount.toText}")
  else do
    let refundable ← p.ledger.refundable
    if refundable < amount then refuse (.refundAmountExceedsPayment amount refundable)
    else .ok { p with status := .refunding, refundReason := some reason }

/-- A refund has been made under the gateway's refund id. -/
def completeRefund (p : Payment) (amount : Decimal) (refundId : String) (now : Instant) :
    Outcome Payment := do
  p.requireStatus .refunding .completeRefund
  let ledger ← p.ledger.refund amount
  .ok
    { p with
      reference := p.reference.addRefund refundId now
      status := if ledger.isFullyRefunded then .refunded else .partiallyRefunded
      ledger
      refundedAt := some now }

/-- A refund could not be made. -/
def failRefund (p : Payment) (reason : String) : Outcome Payment := do
  p.requireStatus .refunding .failRefund
  .ok { p with status := .refundFailed, failureReason := some reason }

/-- The payment is called off. -/
def cancel (p : Payment) (reason : String) : Outcome Payment :=
  if p.status.isFinal then refuse (.cannotCancel p.status)
  else .ok { p with status := .cancelled, refundReason := some reason }

/-! ## Storage -/

/-- Gives the payment its identity, once. -/
def assignId (p : Payment) (id : PaymentId) : Outcome Payment :=
  if p.id.isSome then refuse .identityAlreadyAssigned else .ok { p with id := some id }

/-- Counts a stored change. A version has 64 bits. -/
def touch (p : Payment) (now : Instant) : Outcome Payment :=
  if p.version + 1 < twoTo 64 then .ok { p with version := p.version + 1, updatedAt := some now }
  else .error (.overflowed .counting)

/-- Marks the payment as deleted. -/
def markDeleted (p : Payment) (deletedBy : String) (now : Instant) : Payment :=
  { p with deletion := some ⟨deletedBy, now⟩, updatedAt := some now }

/-- Payments in JSON. -/
def codec : Json.Codec Payment :=
  .record
    (.cons (.optional "id" PaymentId.codec Payment.id) <|
      .cons (.required "order_id" .text Payment.orderId) <|
      .cons (.required "amount_info" Ledger.codec Payment.ledger) <|
      .cons (.required "pg_info" Gateway.Reference.codec Payment.reference) <|
      .cons (.required "payer_info" Payer.codec Payment.payer) <|
      .cons (.required "payee_info" Payee.codec Payment.payee) <|
      .cons (.required "status" Status.codec Payment.status) <|
      .cons (.required "verification_status" Verification.codec Payment.verification) <|
      .cons (.optional "failure_reason" .text Payment.failureReason) <|
      .cons (.optional "refund_reason" .text Payment.refundReason) <|
      .cons (.required "created_at" Instant.codec Payment.createdAt) <|
      .cons (.optional "verified_at" Instant.codec Payment.verifiedAt) <|
      .cons (.optional "refunded_at" Instant.codec Payment.refundedAt) <|
      .cons (.optional "updated_at" Instant.codec Payment.updatedAt) <|
      .cons (.optional "deletion" Deletion.codec Payment.deletion) <|
      .cons (.defaulted "version" .count Payment.version 0) .nil)
    fun (id, orderId, ledger, reference, payer, payee, status, verification, failureReason,
        refundReason, createdAt, verifiedAt, refundedAt, updatedAt, deletion, version, ()) =>
      .ok
        { id, orderId, ledger, reference, payer, payee, status, verification, failureReason,
          refundReason, createdAt, verifiedAt, refundedAt, updatedAt, deletion, version }

end Payment

end Payments
