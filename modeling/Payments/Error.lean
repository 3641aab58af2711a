import Payments.Calendar.Text
import Payments.Decimal.Text
import Payments.Gateway.Status
import Payments.Status

/-!
# Payments.Error -- what can go wrong

An operation is refused with a `PaymentError`, which says why; the wording, the code under which the
error is known to callers and its broad kind are functions of the cause. What the gateway client
reports is a `GatewayError`, which a `PaymentError` may carry.

Apart from refusals, a calculation may leave the range of its numbers. This is no error of the
caller's request and has no code; `Failure` keeps the two apart.
-/

namespace Payments

/-! ## The gateway client -/

/-- Why the gateway gave no usable answer. -/
inductive GatewayError where
  | invalidPaymentKey
  | authenticationFailed
  | paymentNotFound
  | systemError
  | verificationFailed (httpStatus : Nat)
  | invalidCancelRequest
  | notCancellable
  | cancelFailed (httpStatus : Nat)
  | transport (reason : String)
  | malformedResponse (reason : String)
deriving DecidableEq, Repr

namespace GatewayError

/-- What an error status says when a payment was looked up. -/
def ofLookupStatus : Nat → GatewayError
  | 400 => .invalidPaymentKey
  | 401 => .authenticationFailed
  | 404 => .paymentNotFound
  | 500 => .systemError
  | other => .verificationFailed other

/-- What an error status says when a payment was to be cancelled. -/
def ofCancelStatus : Nat → GatewayError
  | 400 => .invalidCancelRequest
  | 401 => .authenticationFailed
  | 404 => .paymentNotFound
  | 409 => .notCancellable
  | 500 => .systemError
  | other => .cancelFailed other

/-- The code under which callers know the error. -/
def code : GatewayError → String
  | .invalidPaymentKey => "PG_102"
  | .authenticationFailed => "PG_108"
  | .paymentNotFound => "PAYMENT_001"
  | .systemError => "PG_101"
  | .transport _ => "PG_101"
  | .verificationFailed _ => "PG_104"
  | .invalidCancelRequest => "REFUND_202"
  | .notCancellable => "REFUND_204"
  | .cancelFailed _ => "PG_105"
  | .malformedResponse _ => "PG_103"

/-- The error in words. -/
def message : GatewayError → String
  | .invalidPaymentKey => "invalid payment key"
  | .authenticationFailed => "payment gateway authentication failed"
  | .paymentNotFound => "payment not found at the payment gateway"
  | .systemError => "payment gateway system error"
  | .verificationFailed status => s!"payment gateway verification failed (HTTP {status})"
  | .invalidCancelRequest => "invalid cancel request"
  | .notCancellable => "payment cannot be cancelled in its current gateway state"
  | .cancelFailed status => s!"payment gateway cancel failed (HTTP {status})"
  | .transport reason => "payment gateway transport error: " ++ reason
  | .malformedResponse reason => "malformed payment gateway response: " ++ reason

end GatewayError

/-! ## Refusals -/

/-- The broad kind of an error. -/
inductive ErrorKind where
  | notFound
  | invalidState
  | validationFailure
  | gatewayFailure
  | processingFailure
  | internal
deriving DecidableEq, Repr

/-- The steps of a payment's life that need one particular status. -/
inductive Operation where
  | startVerification
  | completeVerification
  | failVerification
  | completeRefund
  | failRefund
deriving DecidableEq, Repr

/-- The step in words. -/
def Operation.name : Operation → String
  | .startVerification => "start verification"
  | .completeVerification => "complete verification"
  | .failVerification => "fail verification"
  | .completeRefund => "complete refund"
  | .failRefund => "fail refund"

/-- Why an operation was refused. -/
inductive PaymentError where
  | invalidAmount (detail : String)
  | invalidRefundAmount (detail : String)
  | refundExceedsPayment (amount refunded requested : Decimal)
  | invalidValue (field : String)
  | invalidStatus (operation : Operation) (required actual : Status)
  | refundNotAllowed (status : Status)
  | refundAmountExceedsPayment (requested refundable : Decimal)
  | cannotCancel (status : Status)
  | identityAlreadyAssigned
  | paymentExpired (approvedAt : Option Instant)
  | amountMismatch (actual expected : Decimal)
  | notApproved (status : String)
  | paymentAlreadyProcessed
  | paymentVerificationFailed (detail : String)
  | duplicateGatewayPayment (gatewayPaymentId : String)
  | duplicateOrder (orderId : String)
  | paymentNotFound (what : String)
  | orderMismatch (paymentId orderId : String)
  | concurrentModification (paymentId : String)
  | gatewayUnavailable (cause : GatewayError)
  | gateway (cause : GatewayError)
  | refundProcessingFailed (cause : PaymentError)
  | settings (detail : String)
  | report (detail : String)
  | unreadable (fault : Json.Fault)
  | inputOutput (detail : String)
  | internal (detail : String)
deriving DecidableEq

namespace PaymentError

/-- The code under which callers know the error. -/
def code : PaymentError → String
  | .invalidAmount _ => "PAYMENT_005"
  | .invalidRefundAmount _ => "REFUND_202"
  | .refundExceedsPayment .. => "REFUND_203"
  | .invalidValue _ => "VERIFICATION_304"
  | .invalidStatus .. => "PAYMENT_003"
  | .refundNotAllowed _ => "REFUND_204"
  | .refundAmountExceedsPayment .. => "REFUND_203"
  | .cannotCancel _ => "PAYMENT_006"
  | .identityAlreadyAssigned => "PAYMENT_002"
  | .paymentExpired _ => "VERIFICATION_303"
  | .amountMismatch .. => "VERIFICATION_302"
  | .notApproved _ => "VERIFICATION_306"
  | .paymentAlreadyProcessed => "PAYMENT_004"
  | .paymentVerificationFailed _ => "VERIFICATION_301"
  | .duplicateGatewayPayment _ => "VERIFICATION_308"
  | .duplicateOrder _ => "VERIFICATION_308"
  | .paymentNotFound _ => "PAYMENT_001"
  | .orderMismatch .. => "PAYMENT_001"
  | .concurrentModification _ => "PAYMENT_004"
  | .gatewayUnavailable _ => "PG_101"
  | .gateway cause => cause.code
  | .refundProcessingFailed _ => "REFUND_207"
  | .settings _ => "INTERNAL_ERROR"
  | .report _ => "INTERNAL_ERROR"
  | .unreadable _ => "INTERNAL_ERROR"
  | .inputOutput _ => "INTERNAL_ERROR"
  | .internal _ => "INTERNAL_ERROR"

/-- The broad kind of the error. -/
def kind : PaymentError → ErrorKind
  | .invalidAmount _ => .validationFailure
  | .invalidRefundAmount _ => .validationFailure
  | .refundExceedsPayment .. => .validationFailure
  | .invalidValue _ => .validationFailure
  | .invalidStatus .. => .invalidState
  | .refundNotAllowed _ => .invalidState
  | .refundAmountExceedsPayment .. => .validationFailure
  | .cannotCancel _ => .invalidState
  | .identityAlreadyAssigned => .invalidState
  | .paymentExpired _ => .validationFailure
  | .amountMismatch .. => .validationFailure
  | .notApproved _ => .validationFailure
  | .paymentAlreadyProcessed => .validationFailure
  | .paymentVerificationFailed _ => .validationFailure
  | .duplicateGatewayPayment _ => .validationFailure
  | .duplicateOrder _ => .validationFailure
  | .paymentNotFound _ => .notFound
  | .orderMismatch .. => .notFound
  | .concurrentModification _ => .invalidState
  | .gatewayUnavailable _ => .gatewayFailure
  | .gateway _ => .gatewayFailure
  | .refundProcessingFailed _ => .processingFailure
  | .settings _ => .internal
  | .report _ => .internal
  | .unreadable _ => .internal
  | .inputOutput _ => .internal
  | .internal _ => .internal

/-- An approval time as it is quoted in an error. -/
def quoteTime : Option Instant → String
  | none => "None"
  | some t => s!"Some({t.toText})"

/-- The error in words. -/
def message : PaymentError → String
  | .invalidAmount detail => "invalid payment amount: " ++ detail
  | .invalidRefundAmount detail => "invalid refund amount: " ++ detail
  | .refundExceedsPayment amount refunded requested =>
    s!"refund of {requested.toText} would exceed the payment amount {amount.toText}" ++
      s!" (already refunded {refunded.toText})"
  | .invalidValue field => s!"{field} must not be blank"
  | .invalidStatus operation required actual =>
    s!"{operation.name} is only allowed in {required.name} status (current: {actual.name})"
  | .refundNotAllowed status => s!"refund is not allowed in {status.name} status"
  | .refundAmountExceedsPayment requested refundable =>
    s!"refund amount {requested.toText} exceeds the refundable amount {refundable.toText}"
  | .cannotCancel status => s!"payment in final status {status.name} cannot be cancelled"
  | .identityAlreadyAssigned => "payment identity is already assigned"
  | .paymentExpired approvedAt =>
    s!"PG approval is older than one hour (approved at {quoteTime approvedAt})"
  | .amountMismatch actual expected =>
    s!"payment amount mismatch: PG amount {actual.toText}, expected {expected.toText}"
  | .notApproved status => s!"PG payment is not approved (status: {status})"
  | .paymentAlreadyProcessed => "payment was already cancelled at the PG"
  | .paymentVerificationFailed detail => "payment verification failed: " ++ detail
  | .duplicateGatewayPayment id => s!"a payment for PG payment id {id} is already registered"
  | .duplicateOrder id => s!"a payment for order {id} is already registered"
  | .paymentNotFound what => "payment not found: " ++ what
  | .orderMismatch paymentId orderId =>
    s!"payment {paymentId} does not belong to order {orderId}"
  | .concurrentModification id => s!"payment {id} was modified concurrently"
  | .gatewayUnavailable cause =>
    "failed to communicate with the payment gateway: " ++ cause.message
  | .gateway cause => cause.message
  | .refundProcessingFailed cause => "refund processing failed: " ++ cause.message
  | .settings detail => "configuration error: " ++ detail
  | .report detail => "CSV error: " ++ detail
  | .unreadable fault => "JSON error: " ++ fault.message?.getD "unreadable text"
  | .inputOutput detail => "IO error: " ++ detail
  | .internal detail => "Internal error: " ++ detail

end PaymentError

/-! ## Failures -/

/-- A calculation left the range of its numbers. -/
inductive Overflow where
  | addition
  | subtraction
  | instantSubtraction
  /-- A count has reached the largest number of 64 bits. -/
  | counting
deriving DecidableEq, Repr

/-- The overflow in words. -/
def Overflow.message : Overflow → String
  | .addition => "Addition overflowed"
  | .subtraction => "Subtraction overflowed"
  | .instantSubtraction => "`DateTime - TimeDelta` overflowed"
  | .counting => "attempt to add with overflow"

/-- Why an operation gave no result: it was refused, or a calculation overflowed. -/
inductive Failure where
  | refused (error : PaymentError)
  | overflowed (overflow : Overflow)
deriving DecidableEq

/-- The result of an operation that may fail. -/
abbrev Outcome (α : Type) := Except Failure α

/-- An operation that is refused. -/
def refuse {α : Type} (e : PaymentError) : Outcome α :=
  .error (.refused e)

/-- Text of a mandatory field: kept as it is, refused when blank. -/
def requireText (field value : String) : Outcome String :=
  if Text.isBlankText value then refuse (.invalidValue field) else .ok value

end Payments
