import Payments.Payment

/-!
# Payments.Event -- what is announced about refunds

Every refund attempt that reaches the gateway ends in one announcement: that money has been given
back, or that it has not.
-/

namespace Payments

/-- Money has been given back. -/
structure RefundDone where
  paymentId : String
  orderId : String
  refundAmount : Decimal
  totalRefundedAmount : Decimal
  reason : String
  refundId : Option String
  fullRefund : Bool
  refundedAt : Instant
deriving DecidableEq

namespace RefundDone

/-- The announcement of a refund that has just been entered into the payment. A payment that does
not know when it was refunded is announced as refunded now. -/
def of (p : Payment) (amount : Decimal) (reason : String) (now : Instant) : RefundDone where
  paymentId := p.idText
  orderId := p.orderId
  refundAmount := amount
  totalRefundedAmount := p.ledger.refunded
  reason := reason
  refundId := p.reference.refundId
  fullRefund := p.ledger.isFullyRefunded
  refundedAt := p.refundedAt.getD now

/-- Announcements of refunds in JSON. -/
def codec : Json.Codec RefundDone :=
  .record
    (.cons (.required "paymentId" .text RefundDone.paymentId) <|
      .cons (.required "orderId" .text RefundDone.orderId) <|
      .cons (.required "refundAmount" Decimal.codec RefundDone.refundAmount) <|
      .cons (.required "totalRefundedAmount" Decimal.codec RefundDone.totalRefundedAmount) <|
      .cons (.required "reason" .text RefundDone.reason) <|
      .cons (.optional "pgRefundId" .text RefundDone.refundId) <|
      .cons (.required "fullRefund" .flag RefundDone.fullRefund) <|
      .cons (.required "refundedAt" Instant.codec RefundDone.refundedAt) .nil)
    fun (paymentId, orderId, refundAmount, totalRefundedAmount, reason, refundId, fullRefund,
        refundedAt, ()) =>
      .ok
        { paymentId, orderId, refundAmount, totalRefundedAmount, reason, refundId, fullRefund,
          refundedAt }

end RefundDone

/-- A refund has failed. -/
structure RefundFailed where
  paymentId : String
  orderId : String
  requestedAmount : Decimal
  errorMessage : String
  failedAt : Instant
deriving DecidableEq

namespace RefundFailed

/-- The announcement that a refund of the payment has just failed. -/
def of (p : Payment) (requested : Decimal) (message : String) (now : Instant) : RefundFailed where
  paymentId := p.idText
  orderId := p.orderId
  requestedAmount := requested
  errorMessage := message
  failedAt := now

/-- Announcements of failed refunds in JSON. -/
def codec : Json.Codec RefundFailed :=
  .record
    (.cons (.required "paymentId" .text RefundFailed.paymentId) <|
      .cons (.required "orderId" .text RefundFailed.orderId) <|
      .cons (.required "requestedAmount" Decimal.codec RefundFailed.requestedAmount) <|
      .cons (.required "errorMessage" .text RefundFailed.errorMessage) <|
      .cons (.required "failedAt" Instant.codec RefundFailed.failedAt) .nil)
    fun (paymentId, orderId, requestedAmount, errorMessage, failedAt, ()) =>
      .ok { paymentId, orderId, requestedAmount, errorMessage, failedAt }

end RefundFailed

/-- An announcement. -/
inductive Event where
  | refunded (e : RefundDone)
  | refundFailed (e : RefundFailed)
deriving DecidableEq

namespace Event

/-- The payment that the announcement is about. -/
def paymentId : Event → String
  | .refunded e => e.paymentId
  | .refundFailed e => e.paymentId

/-- The order of that payment. -/
def orderId : Event → String
  | .refunded e => e.orderId
  | .refundFailed e => e.orderId

/-- The announcement as a JSON value. -/
def write : Event → Json.Value
  | .refunded e => RefundDone.codec.write e
  | .refundFailed e => RefundFailed.codec.write e

end Event

end Payments
