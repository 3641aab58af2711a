import Payments.Command
import Payments.Procedure

/-!
# Payments.Service -- registering and refunding payments

A payment is registered after the gateway has confirmed it: once per gateway payment and once per
order. A registration that comes again is answered with the payment that is stored. A payment that
the gateway confirms, but not as expected, is stored as failed.

A refund gives back everything that is left. The payment is stored as `REFUNDING` first, and the
gateway is called only by whoever stored it so; of two refunds that overlap one does not get that
far. Whatever the gateway says is then stored and announced. A failed
announcement changes nothing.
-/

namespace Payments.Service

open Attempt

/-! ## Look-ups -/

/-- The payment with an identity. -/
def find (paymentId : String) : Attempt Payment := do
  let id ← ofOutcome (PaymentId.ofText paymentId)
  match ← read (.findById id) with
  | some p => return p
  | none => refuse (.paymentNotFound paymentId)

/-- The payment of an order. -/
def findByOrder (orderId : String) : Attempt Payment := do
  match ← read (.findByOrder orderId) with
  | some p => return p
  | none => refuse (.paymentNotFound ("order " ++ orderId))

/-- The payment that the gateway knows by an id, if there is one. -/
def findByGatewayPayment (gatewayPaymentId : String) : Attempt (Option Payment) :=
  read (.findByGatewayPayment gatewayPaymentId)

/-- A page of the payments that meet the criteria. -/
def search (c : Criteria) (r : PageRequest) : Attempt (Page Payment) :=
  read (.search c r)

/-- Whether a payment is verified. -/
def isVerified (paymentId : String) : Attempt Bool :=
  Payment.isVerified <$> find paymentId

/-- Whether a payment can be refunded. -/
def isRefundable (paymentId : String) : Attempt Bool :=
  Payment.isRefundable <$> find paymentId

/-- Deletes a payment. It stays in the store, but look-ups no longer show it. -/
def delete (paymentId deletedBy : String) : Attempt Payment := do
  let p ← find paymentId
  ofOutcome (← read (.delete p deletedBy))

/-! ## Registration -/

/-- Only payments whose money has been taken can be registered. -/
def checkApproved (s : Gateway.Status) : Outcome Unit :=
  if s.isDone then .ok ()
  else if s.isCanceled then Payments.refuse .paymentAlreadyProcessed
  else if s.isFailed then
    Payments.refuse (.paymentVerificationFailed s!"PG payment ended in {s.name} status")
  else Payments.refuse (.notApproved s.name)

/-- Asks the gateway for a payment whose money has been taken. -/
def fetchApproved (paymentKey : String) : Attempt Gateway.PaymentAnswer := do
  match ← ExceptT.lift (Procedure.request (.lookup paymentKey)) with
  | .error e => refuse (.gatewayUnavailable e)
  | .ok answer => do
    ofOutcome (checkApproved answer.status)
    return answer

/-- The payment that a registration and the gateway's account of it describe, with its verification
begun. -/
def draft (r : Registration) (answer : Gateway.PaymentAnswer) (now : Instant) :
    Outcome Payment := do
  let reference ← Gateway.Reference.create r.provider r.gatewayPaymentId (some r.paymentKey)
    answer.transactionKey answer.approvedAt
  let payer ← Payer.create r.payerCompanyId r.payerName r.payerEmail r.payerPhone
  let payee ← Payee.create r.payeeCompanyId r.payeeName
  let payment ← Payment.create r.orderId answer.totalAmount reference payer payee now
  payment.startVerification

/-- Verifies a payment: it has to be for the amount expected, and its approval has to be fresh. -/
def assess (p : Payment) (expected : Decimal) (checkedAt now : Instant) : Outcome Payment := do
  p.validateAmount expected
  p.verify checkedAt now

/-- Stores a verified payment. If a registration of the same gateway payment was stored in the
meantime, its payment is the result. -/
def insertVerified (p : Payment) : Attempt Payment := do
  match ← read (.save p) with
  | .error (.refused (.duplicateGatewayPayment id)) => do
    match ← read (.findByGatewayPayment id) with
    | some winner => return winner
    | none => refuse (.duplicateGatewayPayment id)
  | result => ofOutcome result

/-- Stores that a payment failed its verification, if that can be stored, and reports why. -/
def recordFailure (p : Payment) (cause : PaymentError) : Attempt Payment :=
  match p.failVerification cause.message with
  | .ok failed => do
    match ← read (.save failed) with
    | .error (.overflowed o) => ofOutcome (.error (.overflowed o))
    | _ => refuse cause
  | .error _ => refuse cause

/-- Verifies the payment of a registration and stores the outcome. -/
def settleRegistration (r : Registration) (answer : Gateway.PaymentAnswer) : Attempt Payment := do
  let payment ← ofOutcome (draft r answer (← now))
  match assess payment r.expectedAmount (← now) (← now) with
  | .ok verified => insertVerified verified
  | .error (.refused cause) => recordFailure payment cause
  | .error (.overflowed o) => ofOutcome (.error (.overflowed o))

/-- Registers a payment. -/
def register (r : Registration) : Attempt Payment := do
  match ← read (.findByGatewayPayment r.gatewayPaymentId) with
  | some existing => return existing
  | none =>
    if ← read (.holdsGatewayPayment r.gatewayPaymentId) then
      refuse (.duplicateGatewayPayment r.gatewayPaymentId)
    else if ← read (.holdsOrder r.orderId) then refuse (.duplicateOrder r.orderId)
    else do
      let answer ← fetchApproved r.paymentKey
      settleRegistration r answer

/-! ## Refunds -/

/-- The gateway's id for the refund it has just made. -/
def refundId (answer : Gateway.CancelAnswer) : Except GatewayError String :=
  match answer.latestRefundId? with
  | some id => .ok id
  | none => .error (.malformedResponse "cancel response has no cancel entries")

/-- Refunds a payment at the gateway: the payment with the refund entered. -/
def execute (p : Payment) (amount : Decimal) (reason : String) : Attempt Payment := do
  match p.reference.paymentKey with
  | none => refuse (.invalidValue "pg_payment_key")
  | some key => do
    match ← ExceptT.lift (Procedure.request (.cancel key (.full reason))) with
    | .error e => refuse (.gateway e)
    | .ok answer =>
      match refundId answer with
      | .error e => refuse (.gateway e)
      | .ok id => do
        let at_ ← now
        ofOutcome (p.completeRefund amount id at_)

/-- Announces something. Whether it was heard changes nothing. -/
def announce (e : Event) : Attempt Unit := do
  let _ ← ExceptT.lift (Procedure.request (.publish e))
  return ()

/-- Stores and announces a refund that has been made. -/
def conclude (refunded : Payment) (amount : Decimal) (reason : String) : Attempt Payment := do
  let saved ← save refunded
  announce (.refunded (RefundDone.of saved amount reason (← now)))
  return saved

/-- Stores and announces that a refund could not be made, and reports why. -/
def abandon (begun : Payment) (amount : Decimal) (cause : PaymentError) : Attempt Payment := do
  let failed ← ofOutcome (begun.failRefund cause.message)
  let saved ← save failed
  announce (.refundFailed (RefundFailed.of saved amount cause.message (← now)))
  refuse (.refundProcessingFailed cause)

/-- Carries out a refund whose beginning is stored. -/
def carryOut (begun : Payment) (amount : Decimal) (reason : String) : Attempt Payment := do
  match ← ExceptT.lift (execute begun amount reason).run with
  | .ok refunded => conclude refunded amount reason
  | .error (.refused cause) => abandon begun amount cause
  | .error (.overflowed o) => ofOutcome (.error (.overflowed o))

/-- The payment with a refund of everything that is left begun, and the amount. -/
def beginRefund (p : Payment) (paymentId orderId reason : String) : Outcome (Payment × Decimal) :=
  if p.orderId ≠ orderId then Payments.refuse (.orderMismatch paymentId orderId)
  else do
    let amount ← p.ledger.refundable
    let begun ← p.startRefund amount reason
    .ok (begun, amount)

/-- Gives back everything that is left of a payment. -/
def refund (paymentId orderId reason : String) : Attempt Payment := do
  let p ← find paymentId
  let (begun, amount) ← ofOutcome (beginRefund p paymentId orderId reason)
  carryOut (← save begun) amount reason

end Payments.Service
