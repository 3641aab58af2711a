import Payments.Page
import Payments.Payment

/-!
# Payments.Search -- payments picked by criteria, newest first

A search looks at every stored payment, keeps those that meet all criteria that are set, and puts
the newest first. Payments that were created at the same time are in the order of their identities,
so the order of a result does not depend on where the payments came from.
-/

namespace Payments

/-- Which payments a search sees. -/
inductive Visibility where
  /-- Those that have not been deleted. -/
  | live
  /-- All of them. -/
  | all
  /-- Those that have been deleted. -/
  | deleted
deriving DecidableEq, Repr

/-- Whether a payment is seen. -/
def Visibility.shows : Visibility → Payment → Bool
  | .live, p => !p.isDeleted
  | .all, _ => true
  | .deleted, p => p.isDeleted

/-- What is asked of a payment. A criterion that is not set is met by every payment. -/
structure Criteria where
  /-- The company that pays or is paid. -/
  company : Option String
  status : Option Status
  provider : Option String
  minAmount : Option Decimal
  maxAmount : Option Decimal
  /-- The first instant of creation that counts. -/
  createdFrom : Option Instant
  /-- The first instant of creation that no longer counts. -/
  createdBefore : Option Instant
  visibility : Visibility

namespace Criteria

/-- No criterion: every payment that has not been deleted. -/
def none : Criteria :=
  ⟨.none, .none, .none, .none, .none, .none, .none, .live⟩

/-- Payments of a company, on either side. -/
def ofCompany (company : String) : Criteria :=
  { none with company := some company }

/-- Payments with a status. -/
def ofStatus (status : Status) : Criteria :=
  { none with status := some status }

/-- Whether a payment meets all criteria. -/
def admits (c : Criteria) (p : Payment) : Bool :=
  c.visibility.shows p &&
    c.company.all (fun company => p.payer.companyId == company || p.payee.companyId == company) &&
    c.status.all (fun status => p.status == status) &&
    c.provider.all (fun provider => p.reference.provider == provider) &&
    c.minAmount.all (fun least => decide (least ≤ p.ledger.amount)) &&
    c.maxAmount.all (fun greatest => decide (p.ledger.amount ≤ greatest)) &&
    c.createdFrom.all (fun start => decide (start ≤ p.createdAt)) &&
    c.createdBefore.all (fun stop => decide (p.createdAt < stop))

end Criteria

namespace Payment

/-- Whether the first payment stands before the second or beside it: it was created later, or at the
same time and its identity is not the greater one. -/
def notAfter (p q : Payment) : Bool :=
  decide (q.createdAt < p.createdAt) ||
    (decide (p.createdAt = q.createdAt) && !decide (q.idText < p.idText))

/-- Payments with the newest first. -/
def newestFirst (ps : List Payment) : List Payment :=
  ps.mergeSort notAfter

/-- The page of the payments that meet the criteria. -/
def search (ps : List Payment) (c : Criteria) (r : PageRequest) : Page Payment :=
  Page.ofSorted (newestFirst (ps.filter c.admits)) r

end Payment

end Payments
