import Payments.Calendar.Codec
import Payments.Decimal.Codec
import Payments.Gateway.Status

/-!
# Payments.Gateway.Message -- what is said to the gateway and what it answers

The gateway is asked about a payment, and it is told to cancel one. A cancel order without an amount
cancels all that is left; the answer lists every cancellation of the payment, the latest one last.
-/

namespace Payments.Gateway

/-- Why a payment failed, in the gateway's words. -/
structure FailureDetail where
  code : Option String
  message : Option String
deriving DecidableEq

/-- Failure details in JSON. -/
def FailureDetail.codec : Json.Codec FailureDetail :=
  .record
    (.cons (.optional "code" .text FailureDetail.code) <|
      .cons (.optional "message" .text FailureDetail.message) .nil)
    fun (code, message, ()) => .ok { code, message }

/-- A value that may be `null`, left out, or cut off from the end of a list. -/
def lenient {ρ α : Type} (name : String) (codec : Json.Codec α) (get : ρ → Option α) :
    Json.Field ρ (Option α) :=
  .defaulted name codec.optional get none

/-- The gateway's account of a payment. -/
structure PaymentAnswer where
  paymentKey : String
  orderId : String
  status : Status
  totalAmount : Decimal
  balanceAmount : Option Decimal
  suppliedAmount : Option Decimal
  vat : Option Decimal
  approvedAt : Option Instant
  requestedAt : Option Instant
  transactionKey : Option String
  method : Option String
  failure : Option FailureDetail
deriving DecidableEq

/-- Accounts of payments in JSON. -/
def PaymentAnswer.codec : Json.Codec PaymentAnswer :=
  .record
    (.cons (.required "paymentKey" .text PaymentAnswer.paymentKey) <|
      .cons (.required "orderId" .text PaymentAnswer.orderId) <|
      .cons (.required "status" Status.codec PaymentAnswer.status) <|
      .cons (.required "totalAmount" Decimal.codec PaymentAnswer.totalAmount) <|
      .cons (lenient "balanceAmount" Decimal.codec PaymentAnswer.balanceAmount) <|
      .cons (lenient "suppliedAmount" Decimal.codec PaymentAnswer.suppliedAmount) <|
      .cons (lenient "vat" Decimal.codec PaymentAnswer.vat) <|
      .cons (lenient "approvedAt" Instant.codec PaymentAnswer.approvedAt) <|
      .cons (lenient "requestedAt" Instant.codec PaymentAnswer.requestedAt) <|
      .cons (lenient "transactionKey" .text PaymentAnswer.transactionKey) <|
      .cons (lenient "method" .text PaymentAnswer.method) <|
      .cons (lenient "failure" FailureDetail.codec PaymentAnswer.failure) .nil)
    fun (paymentKey, orderId, status, totalAmount, balanceAmount, suppliedAmount, vat, approvedAt,
        requestedAt, transactionKey, method, failure, ()) =>
      .ok
        { paymentKey, orderId, status, totalAmount, balanceAmount, suppliedAmount, vat, approvedAt,
          requestedAt, transactionKey, method, failure }

/-- The order to cancel a payment: all that is left, or the given amount. -/
structure CancelOrder where
  reason : String
  amount : Option Decimal
deriving DecidableEq

namespace CancelOrder

/-- The order to cancel all that is left. -/
def full (reason : String) : CancelOrder :=
  ⟨reason, none⟩

/-- Cancel orders in JSON. An absent amount is not written. -/
def codec : Json.Codec CancelOrder :=
  .record
    (.cons (.required "cancelReason" .text CancelOrder.reason) <|
      .cons { lenient "cancelAmount" Decimal.codec CancelOrder.amount with shown := Option.isSome }
        .nil)
    fun (reason, amount, ()) => .ok { reason, amount }

end CancelOrder

/-- One cancellation of a payment. -/
structure Cancellation where
  amount : Decimal
  reason : Option String
  canceledAt : Option Instant
  transactionKey : String
deriving DecidableEq

/-- Cancellations in JSON. -/
def Cancellation.codec : Json.Codec Cancellation :=
  .record
    (.cons (.required "cancelAmount" Decimal.codec Cancellation.amount) <|
      .cons (lenient "cancelReason" .text Cancellation.reason) <|
      .cons (lenient "canceledAt" Instant.codec Cancellation.canceledAt) <|
      .cons (.required "transactionKey" .text Cancellation.transactionKey) .nil)
    fun (amount, reason, canceledAt, transactionKey, ()) =>
      .ok { amount, reason, canceledAt, transactionKey }

/-- The gateway's answer to a cancel order. -/
structure CancelAnswer where
  paymentKey : String
  orderId : String
  status : Status
  totalAmount : Decimal
  balanceAmount : Option Decimal
  cancels : List Cancellation
deriving DecidableEq

namespace CancelAnswer

/-- The gateway's key for the latest cancellation. -/
def latestRefundId? (a : CancelAnswer) : Option String :=
  a.cancels.getLast?.map Cancellation.transactionKey

/-- Answers to cancel orders in JSON. -/
def codec : Json.Codec CancelAnswer :=
  .record
    (.cons (.required "paymentKey" .text CancelAnswer.paymentKey) <|
      .cons (.required "orderId" .text CancelAnswer.orderId) <|
      .cons (.required "status" Status.codec CancelAnswer.status) <|
      .cons (.required "totalAmount" Decimal.codec CancelAnswer.totalAmount) <|
      .cons (lenient "balanceAmount" Decimal.codec CancelAnswer.balanceAmount) <|
      .cons (.defaulted "cancels" Cancellation.codec.list CancelAnswer.cancels []) .nil)
    fun (paymentKey, orderId, status, totalAmount, balanceAmount, cancels, ()) =>
      .ok { paymentKey, orderId, status, totalAmount, balanceAmount, cancels }

end CancelAnswer

end Payments.Gateway
