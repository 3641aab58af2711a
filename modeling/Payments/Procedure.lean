import Payments.Event
import Payments.Gateway.Message
import Payments.Store

/-!
# Payments.Procedure -- what the service does, one request at a time

The service works by asking its surroundings: the clock, the store, the gateway and whoever listens
to announcements. A `Procedure` is that conversation, and nothing else: either it is done, or it
puts one request and goes on with the answer. It does not say who answers, so one procedure serves
a running program, a rehearsal against scripted surroundings, and a proof that looks at every answer
there could be. As each request is answered on its own, procedures that overlap in time are
procedures whose requests alternate.
-/

namespace Payments

/-! ## Requests -/

/-- A request to the store. -/
inductive StoreRequest where
  | save (p : Payment)
  | delete (p : Payment) (deletedBy : String)
  | findById (id : PaymentId)
  | findByOrder (orderId : String)
  | findByGatewayPayment (gatewayPaymentId : String)
  | holdsGatewayPayment (gatewayPaymentId : String)
  | holdsOrder (orderId : String)
  | search (c : Criteria) (r : PageRequest)

namespace StoreRequest

/-- What the store answers with. -/
abbrev Answer : StoreRequest → Type
  | save _ | delete _ _ => Outcome Payment
  | findById _ | findByOrder _ | findByGatewayPayment _ => Option Payment
  | holdsGatewayPayment _ | holdsOrder _ => Bool
  | search _ _ => Page Payment

/-- Answers a request at an instant; an insertion uses the fresh identity. -/
def serve (now : Instant) (fresh : PaymentId) (s : Store) : (r : StoreRequest) → r.Answer × Store
  | save p => s.save p fresh now
  | delete p deletedBy => s.delete p deletedBy now
  | findById id => (s.findById id, s)
  | findByOrder orderId => (s.findByOrder orderId, s)
  | findByGatewayPayment id => (s.findByGatewayPayment id, s)
  | holdsGatewayPayment id => (s.holdsGatewayPayment id, s)
  | holdsOrder orderId => (s.holdsOrder orderId, s)
  | search c r => (s.search c r, s)

end StoreRequest

/-- A request to the surroundings. -/
inductive Request where
  /-- What time is it? -/
  | now
  | store (r : StoreRequest)
  /-- The gateway is asked for its account of a payment. -/
  | lookup (paymentKey : String)
  /-- The gateway is told to cancel a payment. -/
  | cancel (paymentKey : String) (order : Gateway.CancelOrder)
  | publish (e : Event)

namespace Request

/-- What a request is answered with. -/
abbrev Answer : Request → Type
  | now => Instant
  | store r => r.Answer
  | lookup _ => Except GatewayError Gateway.PaymentAnswer
  | cancel _ _ => Except GatewayError Gateway.CancelAnswer
  | publish _ => Except PaymentError Unit

/-- Whether the request goes to the gateway. -/
def isForGateway : Request → Bool
  | lookup _ | cancel _ _ => true
  | _ => false

end Request

/-! ## Procedures -/

/-- A conversation with the surroundings that ends with a result. -/
inductive Procedure (α : Type) where
  | done (a : α)
  | ask (r : Request) (next : r.Answer → Procedure α)

namespace Procedure

variable {α β γ : Type}

/-- One procedure after another. -/
def bind : Procedure α → (α → Procedure β) → Procedure β
  | done a, f => f a
  | ask r next, f => ask r fun a => (next a).bind f

instance : Monad Procedure where
  pure := done
  bind := bind

@[simp] theorem pure_eq (a : α) : (pure a : Procedure α) = done a := rfl

@[simp] theorem bind_eq (p : Procedure α) (f : α → Procedure β) : p >>= f = p.bind f := rfl

@[simp] theorem done_bind (a : α) (f : α → Procedure β) : (done a).bind f = f a := rfl

@[simp] theorem ask_bind (r : Request) (next : r.Answer → Procedure α) (f : α → Procedure β) :
    (ask r next).bind f = ask r fun a => (next a).bind f := rfl

theorem bind_assoc (p : Procedure α) (f : α → Procedure β) (g : β → Procedure γ) :
    (p.bind f).bind g = p.bind fun a => (f a).bind g := by
  induction p with
  | done a => rfl
  | ask r next ih => simp [ih]

/-- A single request, whose answer is the result. -/
def request (r : Request) : Procedure r.Answer :=
  ask r done

/-- Carries a procedure out in surroundings that answer every request. -/
def run {m : Type → Type} [Monad m] (answer : (r : Request) → m r.Answer) : Procedure α → m α
  | done a => pure a
  | ask r next => do
    let a ← answer r
    (next a).run answer

/-- Carries a procedure out up to and including its first request to the gateway. The procedure that
is left knows the gateway's answer; one that does not go to the gateway is carried out to its end.
-/
def runThroughGateway {m : Type → Type} [Monad m] (answer : (r : Request) → m r.Answer) :
    Procedure α → m (Procedure α)
  | done a => pure (done a)
  | ask r next => do
    let a ← answer r
    if r.isForGateway then pure (next a) else (next a).runThroughGateway answer

end Procedure

/-- A procedure that may fail. What follows a failure is not done. -/
abbrev Attempt (α : Type) := ExceptT Failure Procedure α

namespace Attempt

/-- The current time. -/
def now : Attempt Instant :=
  ExceptT.lift (Procedure.request .now)

/-- A request to the store that is always answered. -/
def read (r : StoreRequest) : Attempt r.Answer :=
  ExceptT.lift (Procedure.request (.store r))

/-- A result that an operation gave. -/
def ofOutcome {α : Type} (o : Outcome α) : Attempt α :=
  ExceptT.mk (.done o)

/-- Stores a payment. -/
def save (p : Payment) : Attempt Payment := do
  ofOutcome (← read (.save p))

end Attempt

end Payments
