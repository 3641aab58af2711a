import Payments.Calendar.Codec
import Payments.Error

/-!
# Payments.Gateway.Reference -- how the gateway knows a payment

Every payment points to one at a gateway: the gateway's name, its id for the payment, and what else
it told about the approval. A refund adds the gateway's id for the refund and its time.

An approval is good for one hour. `Reference.isApprovalFresh` says whether it lies after the instant
one hour before a given one; a payment without an approval time is never fresh.
-/

namespace Payments.Gateway

/-- What is known of a payment at its gateway. -/
structure Reference where
  provider : String
  paymentId : String
  paymentKey : Option String
  transactionId : Option String
  approvedAt : Option Instant
  refundId : Option String
  refundedAt : Option Instant
deriving DecidableEq

namespace Reference

/-- A reference to a payment that has not been refunded. -/
def create (provider paymentId : String) (paymentKey transactionId : Option String)
    (approvedAt : Option Instant) : Outcome Reference := do
  let provider ← requireText "pg_provider" provider
  let paymentId ← requireText "pg_payment_id" paymentId
  .ok
    { provider, paymentId, paymentKey, transactionId, approvedAt
      refundId := none
      refundedAt := none }

/-- The reference after a refund. -/
def addRefund (r : Reference) (refundId : String) (at_ : Instant) : Reference :=
  { r with refundId := some refundId, refundedAt := some at_ }

/-- Whether a refund has been entered. -/
def isRefunded (r : Reference) : Bool :=
  r.refundId.isSome && r.refundedAt.isSome

/-- Whether the approval is less than an hour old at the given instant. -/
def isApprovalFresh (r : Reference) (now : Instant) : Outcome Bool :=
  match now.hourBefore? with
  | none => .error (.overflowed .instantSubtraction)
  | some earliest =>
    .ok <| match r.approvedAt with
      | some approvedAt => decide (earliest < approvedAt)
      | none => false

/-- References in JSON. -/
def codec : Json.Codec Reference :=
  .record
    (.cons (.required "pg_provider" .text Reference.provider) <|
      .cons (.required "pg_payment_id" .text Reference.paymentId) <|
      .cons (.optional "pg_payment_key" .text Reference.paymentKey) <|
      .cons (.optional "pg_transaction_id" .text Reference.transactionId) <|
      .cons (.optional "pg_approved_at" Instant.codec Reference.approvedAt) <|
      .cons (.optional "pg_refund_id" .text Reference.refundId) <|
      .cons (.optional "pg_refunded_at" Instant.codec Reference.refundedAt) .nil)
    fun (provider, paymentId, paymentKey, transactionId, approvedAt, refundId, refundedAt, ()) =>
      .ok { provider, paymentId, paymentKey, transactionId, approvedAt, refundId, refundedAt }

end Reference

end Payments.Gateway
