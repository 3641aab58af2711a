import Payments.Search
import Payments.Table

/-!
# Payments.Store -- stored payments

A store keeps one record per identity and two indexes, by the gateway's id of a payment and by its
order. Records are never removed: a deleted payment stays, marked, and goes on holding its order and
its gateway payment, so neither can be registered a second time. Look-ups do not show it.

A payment without identity is inserted, under a fresh identity; one with identity replaces its
record, provided that the record has not been written since the payment was read. Versions tell:
every write counts the version up, and a write is accepted only from the version that is stored.
-/

namespace Payments

/-- The stored payments with their indexes. -/
structure Store where
  records : Table PaymentId Payment
  byGatewayPayment : Table String PaymentId
  byOrder : Table String PaymentId

namespace Store

/-- The store without payments. -/
def empty : Store :=
  ⟨∅, ∅, ∅⟩

instance : EmptyCollection Store := ⟨empty⟩

/-! ## Queries -/

/-- The number of stored payments, deleted ones included. -/
def size (s : Store) : Nat :=
  s.records.size

/-- Every stored payment, deleted ones included, newest first. -/
def all (s : Store) : List Payment :=
  Payment.newestFirst s.records.values

/-- The payment with an identity, deleted or not. -/
def record? (s : Store) (id : PaymentId) : Option Payment :=
  s.records.get? id

/-- The payment with an identity, unless it has been deleted. -/
def findById (s : Store) (id : PaymentId) : Option Payment :=
  (s.record? id).filter fun p => !p.isDeleted

/-- The payment of an order, unless it has been deleted. -/
def findByOrder (s : Store) (orderId : String) : Option Payment :=
  (s.byOrder.get? orderId).bind s.findById

/-- The payment that the gateway knows by an id, unless it has been deleted. -/
def findByGatewayPayment (s : Store) (gatewayPaymentId : String) : Option Payment :=
  (s.byGatewayPayment.get? gatewayPaymentId).bind s.findById

/-- Whether a payment of the gateway is stored, deleted or not. -/
def holdsGatewayPayment (s : Store) (gatewayPaymentId : String) : Bool :=
  s.byGatewayPayment.holds gatewayPaymentId

/-- Whether a payment of the order is stored, deleted or not. -/
def holdsOrder (s : Store) (orderId : String) : Bool :=
  s.byOrder.holds orderId

/-- The stored payments that meet the criteria, newest first, cut into pages. -/
def search (s : Store) (c : Criteria) (r : PageRequest) : Page Payment :=
  Payment.search s.records.values c r

/-- The payments that meet the criteria, all at once. -/
def select (s : Store) (c : Criteria) : List Payment :=
  (s.search c .unpaged).items

/-- The payments that a company has to pay for. -/
def findByPayer (s : Store) (company : String) : List Payment :=
  (s.select (.ofCompany company)).filter fun p => p.payer.companyId == company

/-- The payments with a status. -/
def findByStatus (s : Store) (status : Status) : List Payment :=
  s.select (.ofStatus status)

/-- The payments whose verification failed. -/
def findVerificationFailed (s : Store) : List Payment :=
  s.findByStatus .verificationFailed

/-- The payments of a company that can be refunded. -/
def findRefundable (s : Store) (company : String) : List Payment :=
  (s.findByPayer company).filter Payment.isRefundable

/-! ## Writes -/

/-- The identity under which a payment is stored, if the record is still the one it was read from.
-/
def checkCurrent (s : Store) (p : Payment) : Outcome PaymentId :=
  match p.id with
  | none => refuse (.paymentNotFound "unsaved payment")
  | some id =>
    match s.record? id with
    | none => refuse (.paymentNotFound id.text)
    | some stored =>
      if stored.version = p.version then .ok id else refuse (.concurrentModification id.text)

/-- The store with the order and the gateway payment of a payment taken by an identity. -/
def reserve (s : Store) (p : Payment) (id : PaymentId) : Store :=
  { s with
    byGatewayPayment := s.byGatewayPayment.put p.reference.paymentId id
    byOrder := s.byOrder.put p.orderId id }

/-- The store with the record of an identity. -/
def file (s : Store) (id : PaymentId) (p : Payment) : Store :=
  { s with records := s.records.put id p }

/-- Inserts a payment under a fresh identity: the record, and the store after it. A payment whose
version cannot be counted up is not filed, but its order and its gateway payment are taken by then.
-/
def insert (s : Store) (p : Payment) (fresh : PaymentId) (now : Instant) :
    Outcome Payment × Store :=
  if s.holdsGatewayPayment p.reference.paymentId then
    (refuse (.duplicateGatewayPayment p.reference.paymentId), s)
  else if s.holdsOrder p.orderId then (refuse (.duplicateOrder p.orderId), s)
  else
    match { p with id := some fresh }.touch now with
    | .ok saved => (.ok saved, (s.reserve p fresh).file fresh saved)
    | .error f => (.error f, s.reserve p fresh)

/-- Replaces the record of a payment that has an identity: the record, and the store after it. A
write that fails changes nothing. -/
def update (s : Store) (p : Payment) (now : Instant) : Outcome Payment × Store :=
  match s.checkCurrent p with
  | .error f => (.error f, s)
  | .ok id =>
    match p.touch now with
    | .ok saved => (.ok saved, s.file id saved)
    | .error f => (.error f, s)

/-- Stores a payment: the record, and the store after it. -/
def save (s : Store) (p : Payment) (fresh : PaymentId) (now : Instant) : Outcome Payment × Store :=
  if p.id.isSome then s.update p now else s.insert p fresh now

/-- Marks the record of a payment as deleted: the record, and the store after it. -/
def delete (s : Store) (p : Payment) (deletedBy : String) (now : Instant) :
    Outcome Payment × Store :=
  s.update (p.markDeleted deletedBy now) now

end Store

end Payments
