import Payments.Service

/-!
# Payments.Consumer -- refund requests that are delivered until acknowledged

A transport hands over refund requests, each with the partition and the offset it came from, and
hands them over again until they are acknowledged. A request is acknowledged after its refund has
been stored and announced, and only then.
-/

namespace Payments

/-- A refund request as the transport hands it over. -/
structure Delivery where
  part : Int
  offset : Int
  request : RefundRequest

/-- What an acknowledgement names. -/
structure Acknowledgement where
  part : Int
  offset : Int
deriving DecidableEq, Repr

/-- The acknowledgement of a delivery. -/
def Delivery.acknowledgement (d : Delivery) : Acknowledgement :=
  ⟨d.part, d.offset⟩

/-- Handles a delivery: the refunded payment and the acknowledgement. A delivery that fails gives no
acknowledgement. -/
def Delivery.handle (d : Delivery) : Attempt (Payment × Acknowledgement) := do
  let p ← Service.refund d.request.paymentId d.request.orderId d.request.reason
  return (p, d.acknowledgement)

/-- The progress in a single partition: the greatest offset that was acknowledged, and `-1` before
the first. -/
structure CommittedOffset where
  last : Int
deriving DecidableEq, Repr

namespace CommittedOffset

/-- Nothing acknowledged yet. -/
def start : CommittedOffset :=
  ⟨-1⟩

/-- Takes note of an acknowledgement. -/
def acknowledge (c : CommittedOffset) (a : Acknowledgement) : CommittedOffset :=
  ⟨max c.last a.offset⟩

/-- The offset from which the transport goes on, if there is one. -/
def lastCommitted? (c : CommittedOffset) : Option Int :=
  if c.last = -1 then none else some c.last

end CommittedOffset

end Payments
