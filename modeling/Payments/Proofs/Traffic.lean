import Payments.Proofs.Payment.Completion
import Payments.Proofs.Service.Course

/-!
# Payments.Proofs.Traffic -- calls that overlap

Any number of calls is in flight over one store. Between two requests of one call there may be
requests of any others; each request is answered at once, by the store as it stands then or by
surroundings that may answer as they like. A run is a list of moves: a call comes in, or the next
request of a call is answered.

Everything that is asked and answered is logged, so that what the gateway and the listeners got to
hear can be told afterwards. What concerns one payment is gathered in its account.
-/

namespace Payments

/-- A call to the service. -/
inductive Call where
  | register (r : Registration)
  | refund (paymentId orderId reason : String)
  | delete (paymentId deletedBy : String)
  | find (paymentId : String)
  | findByOrder (orderId : String)
  | findByGatewayPayment (gatewayPaymentId : String)
  | search (c : Criteria) (r : PageRequest)
  | isVerified (paymentId : String)
  | isRefundable (paymentId : String)

namespace Call

/-- What a call returns. -/
abbrev Result : Call → Type
  | register _ | refund _ _ _ | delete _ _ | find _ | findByOrder _ => Payment
  | findByGatewayPayment _ => Option Payment
  | search _ _ => Page Payment
  | isVerified _ | isRefundable _ => Bool

/-- What the service does for a call. -/
def attempt : (c : Call) → Attempt c.Result
  | register r => Service.register r
  | refund paymentId orderId reason => Service.refund paymentId orderId reason
  | delete paymentId deletedBy => Service.delete paymentId deletedBy
  | find paymentId => Service.find paymentId
  | findByOrder orderId => Service.findByOrder orderId
  | findByGatewayPayment gatewayPaymentId => Service.findByGatewayPayment gatewayPaymentId
  | search c r => Service.search c r
  | isVerified paymentId => Service.isVerified paymentId
  | isRefundable paymentId => Service.isRefundable paymentId

/-- Whether the call is to refund the payment with an identity. -/
def refunds (i : PaymentId) : Call → Bool
  | refund paymentId _ _ => paymentId == i.text
  | _ => false

end Call

/-- A call with what it still has to do. -/
structure Activity where
  call : Call
  rest : Procedure (Outcome call.Result)

/-- A refund with what it still has to do. -/
structure Refunding where
  orderId : String
  reason : String
  rest : Procedure (Outcome Payment)

namespace Activity

/-- A call that has just come in. -/
def begin (c : Call) : Activity :=
  ⟨c, c.attempt.run⟩

/-- The call has returned. -/
def IsOver (a : Activity) : Prop :=
  ∃ o, a.rest = .done o

instance (a : Activity) : Decidable a.IsOver :=
  match a with
  | ⟨_, .done o⟩ => isTrue ⟨o, rfl⟩
  | ⟨_, .ask _ _⟩ => isFalse fun ⟨_, h⟩ => (nomatch h)

/-- The activity as a refund of a payment, if it is one. -/
def refund? (i : PaymentId) : Activity → Option Refunding
  | ⟨.refund paymentId orderId reason, rest⟩ =>
    if paymentId = i.text then some ⟨orderId, reason, rest⟩ else none
  | _ => none

theorem refund?_refund (i : PaymentId) (orderId reason : String)
    (rest : Procedure (Outcome Payment)) :
    refund? i ⟨.refund i.text orderId reason, rest⟩ = some ⟨orderId, reason, rest⟩ :=
  if_pos rfl

theorem refund?_of_ne {i j : PaymentId} (h : i ≠ j) (orderId reason : String)
    (rest : Procedure (Outcome Payment)) :
    refund? i ⟨.refund j.text orderId reason, rest⟩ = none :=
  if_neg fun ht => h (PaymentId.text_injective ht).symm

theorem eq_of_refund? {i : PaymentId} {a : Activity} {x : Refunding} (h : a.refund? i = some x) :
    a = ⟨.refund i.text x.orderId x.reason, x.rest⟩ := by
  obtain ⟨c, rest⟩ := a
  cases c with
  | refund paymentId orderId reason =>
    by_cases ht : paymentId = i.text
    · subst ht
      rw [refund?_refund] at h
      cases h
      rfl
    · rw [refund?, if_neg ht] at h
      cases h
  | _ => cases h

/-- Whether the call was to refund a payment and has returned that it did. -/
def hasRefunded (i : PaymentId) (a : Activity) : Bool :=
  match a.refund? i with
  | some ⟨_, _, .done (.ok _)⟩ => true
  | _ => false

end Activity

/-! ## The log -/

/-- A request of a call and the answer to it. -/
structure Exchange where
  caller : Nat
  call : Call
  request : Request
  answer : request.Answer

/-- An order to cancel that a call gave to the gateway, and the answer. -/
structure Cancel where
  caller : Nat
  paymentKey : String
  order : Gateway.CancelOrder
  answer : Except GatewayError Gateway.CancelAnswer

/-- The gateway has answered with the cancellations of the payment. -/
def Cancel.isMade (c : Cancel) : Bool :=
  match c.answer with
  | .ok answer => !answer.cancels.isEmpty
  | .error _ => false

namespace Exchange

/-- The order to cancel, if the exchange was one that a refund of the payment had. -/
def cancels (i : PaymentId) : Exchange → List Cancel
  | ⟨n, c, .cancel key order, answer⟩ => if c.refunds i then [⟨n, key, order, answer⟩] else []
  | _ => []

/-- What was announced about the payment, heard or not. -/
def events (i : PaymentId) (x : Exchange) : List Event :=
  match x.request with
  | .publish e => if e.paymentId = i.text then [e] else []
  | _ => []

/-- Whether the payment was deleted while its refund was under way. -/
def interrupts (i : PaymentId) : Exchange → Bool
  | ⟨_, _, .store (.delete _ _), .ok p⟩ => p.id == some i && p.status == .refunding
  | _ => false

end Exchange

/-! ## Runs -/

/-- What the surroundings have ready for a request: the time, a fresh identity, and what the gateway
and the listeners will say. -/
structure Cue where
  now : Instant
  supply : Store.Supply
  lookup : String → Except GatewayError Gateway.PaymentAnswer
  cancel : String → Gateway.CancelOrder → Except GatewayError Gateway.CancelAnswer
  heard : Event → Except PaymentError Unit

/-- The answer to a request, and the store after it. -/
def Cue.answer (cue : Cue) (s : Store) : (r : Request) → r.Answer × Store
  | .now => (cue.now, s)
  | .store r => r.serve cue.now (cue.supply s) s
  | .lookup key => (cue.lookup key, s)
  | .cancel key order => (cue.cancel key order, s)
  | .publish e => (cue.heard e, s)

/-- A store with the calls that use it and the log of what they asked. -/
structure Traffic where
  store : Store
  activities : List Activity
  log : List Exchange

/-- What happens next. -/
inductive Move where
  | call (c : Call)
  | answer (caller : Nat) (cue : Cue)

namespace Traffic

/-- An empty store that nobody has called. -/
def start : Traffic :=
  ⟨∅, [], []⟩

/-- A move. A call that has returned, or that never came, has nothing to be answered. -/
def step (t : Traffic) : Move → Traffic
  | .call c => { t with activities := t.activities ++ [.begin c] }
  | .answer n cue =>
    match t.activities[n]? with
    | some ⟨c, .ask r next⟩ =>
      let (a, s) := cue.answer t.store r
      ⟨s, t.activities.set n ⟨c, next a⟩, t.log ++ [⟨n, c, r, a⟩]⟩
    | _ => t

/-- Where moves lead to from the beginning. -/
def after (moves : List Move) : Traffic :=
  moves.foldl step start

variable (t : Traffic) (i : PaymentId)

/-- No call is in flight. -/
def IsQuiet : Prop :=
  ∀ a ∈ t.activities, a.IsOver

instance : Decidable t.IsQuiet :=
  inferInstanceAs (Decidable (∀ a ∈ t.activities, a.IsOver))

/-- The orders to cancel that refunds of the payment gave to the gateway. -/
def cancels : List Cancel :=
  t.log.flatMap (Exchange.cancels i)

/-- What was announced about the payment. -/
def events : List Event :=
  t.log.flatMap (Exchange.events i)

/-- Whether the payment was deleted while its refund was under way. -/
def interrupted : Bool :=
  t.log.any (Exchange.interrupts i)

end Traffic

/-- What concerns one payment. -/
structure Account where
  record : Option Payment
  cancels : List Cancel
  events : List Event
  interrupted : Bool
  /-- The refunds of the payment, by the number of the call. -/
  refunds : Nat → Option Refunding

namespace Account

variable (a : Account) (n : Nat)

/-- The account after a refund has moved on. -/
def turn (x : Option Refunding) : Account :=
  { a with refunds := fun m => if m = n then x else a.refunds m }

/-- The account of a payment after an exchange that left the store `s`. -/
def hear (i : PaymentId) (x : Exchange) (s : Store) : Account :=
  { a with
    record := s.record? i
    cancels := a.cancels ++ x.cancels i
    events := a.events ++ x.events i
    interrupted := a.interrupted || x.interrupts i }

variable {a n}

theorem turn_refunds_self (a : Account) (n : Nat) (x : Option Refunding) :
    (a.turn n x).refunds n = x :=
  if_pos rfl

theorem turn_refunds_of_ne {m : Nat} (h : m ≠ n) (x : Option Refunding) :
    (a.turn n x).refunds m = a.refunds m :=
  if_neg h

/-- A call that is no refund of the payment does not turn its account. -/
theorem turn_of_eq {x : Option Refunding} (h : a.refunds n = x) : a.turn n x = a := by
  have hr : (fun m => if m = n then x else a.refunds m) = a.refunds := by
    funext m
    split
    · next hm => rw [hm, h]
    · rfl
  rw [turn, hr]

/-- The gateway and the listeners hear nothing of an exchange with the store. -/
theorem hear_of_silent {i : PaymentId} {x : Exchange} {s : Store} (hc : x.cancels i = [])
    (he : x.events i = []) :
    a.hear i x s =
      { a with record := s.record? i, interrupted := a.interrupted || x.interrupts i } := by
  rw [hear, hc, he, List.append_nil, List.append_nil]

/-- An exchange that does not concern the payment leaves its account alone. -/
theorem hear_of_idle {i : PaymentId} {x : Exchange} {s : Store} (hs : s.record? i = a.record)
    (hc : x.cancels i = []) (he : x.events i = []) (hi : x.interrupts i = false) :
    a.hear i x s = a := by
  rw [hear_of_silent hc he, hs, hi, Bool.or_false]

end Account

namespace Traffic

/-- The account of a payment. -/
def account (t : Traffic) (i : PaymentId) : Account where
  record := t.store.record? i
  cancels := t.cancels i
  events := t.events i
  interrupted := t.interrupted i
  refunds n := t.activities[n]?.bind (Activity.refund? i)

variable {t : Traffic} {n : Nat} {c : Call} {r : Request}
  {next : r.Answer → Procedure (Outcome c.Result)}

theorem step_answer (h : t.activities[n]? = some ⟨c, .ask r next⟩) (cue : Cue) :
    t.step (.answer n cue) =
      ⟨(cue.answer t.store r).2, t.activities.set n ⟨c, next (cue.answer t.store r).1⟩,
        t.log ++ [⟨n, c, r, (cue.answer t.store r).1⟩]⟩ := by
  simp only [step, h]

theorem store_answer (h : t.activities[n]? = some ⟨c, .ask r next⟩) (cue : Cue) :
    (t.step (.answer n cue)).store = (cue.answer t.store r).2 := by
  rw [step_answer h cue]

/-- A call that is over asks for nothing more. -/
theorem step_answer_of_done {o : Outcome c.Result} (h : t.activities[n]? = some ⟨c, .done o⟩)
    (cue : Cue) : t.step (.answer n cue) = t := by
  rw [step, h]

/-- An answer adds to every account what the exchange has to do with it. -/
theorem account_answer (h : t.activities[n]? = some ⟨c, .ask r next⟩) (cue : Cue)
    (i : PaymentId) :
    (t.step (.answer n cue)).account i =
      ((t.account i).hear i ⟨n, c, r, (cue.answer t.store r).1⟩ (cue.answer t.store r).2).turn n
        (Activity.refund? i ⟨c, next (cue.answer t.store r).1⟩) := by
  have hn : n < t.activities.length := (List.getElem?_eq_some_iff.1 h).1
  rw [step_answer h cue]
  simp only [account, Account.turn, Account.hear, cancels, events, interrupted,
    List.flatMap_append, List.flatMap_cons, List.flatMap_nil, List.append_nil, List.any_append,
    List.any_cons, List.any_nil, Bool.or_false, Account.mk.injEq, true_and]
  -- only the refund that was answered may have moved
  funext m
  by_cases hm : m = n
  · subst hm
    rw [if_pos rfl, List.getElem?_set_self hn]
    rfl
  · rw [if_neg hm, List.getElem?_set_ne (Ne.symm hm)]

/-- A call that comes in is new to the accounts of the payments that it is to refund. -/
theorem account_call (t : Traffic) (c : Call) (i : PaymentId) :
    (t.step (.call c)).account i =
      (t.account i).turn t.activities.length (Activity.refund? i (.begin c)) := by
  simp only [account, Account.turn, step, cancels, events, interrupted, Account.mk.injEq, true_and]
  funext m
  by_cases hm : m = t.activities.length
  · subst hm
    rw [if_pos rfl, List.getElem?_concat_length]
    rfl
  · rw [if_neg hm]
    -- the calls that came before have kept their numbers
    rcases Nat.lt_or_gt_of_ne hm with hlt | hgt
    · rw [List.getElem?_append_left hlt]
    · rw [List.getElem?_eq_none (by rw [List.length_append]; exact hgt),
        List.getElem?_eq_none (Nat.le_of_lt hgt)]

theorem account_refunds {a : Activity} (h : t.activities[n]? = some a) (i : PaymentId) :
    (t.account i).refunds n = a.refund? i := by
  show t.activities[n]?.bind _ = _
  rw [h]
  rfl

/-- A refund in the account of a payment is a call that is to refund the payment. -/
theorem activity_of_refunds {i : PaymentId} {x : Refunding}
    (h : (t.account i).refunds n = some x) :
    t.activities[n]? = some ⟨.refund i.text x.orderId x.reason, x.rest⟩ := by
  obtain ⟨a, ha, hx⟩ := Option.bind_eq_some_iff.1 h
  rw [ha, Activity.eq_of_refund? hx]

theorem refunds_of_length_le {i : PaymentId} (h : t.activities.length ≤ n) :
    (t.account i).refunds n = none := by
  show t.activities[n]?.bind _ = none
  rw [List.getElem?_eq_none h]
  rfl

end Traffic

/-! ## A sample -/

namespace Sample

/-- An amount that is paid and given back. -/
def amount : Decimal :=
  { Decimal.zero with mantissa := 10000, mantissa_lt := by decide }

/-- Noon. -/
def noon : Instant :=
  Payment.Sample.noon

/-- The payment of an order. -/
def registration : Registration where
  orderId := "order-1"
  provider := "TOSS"
  gatewayPaymentId := "pg-1"
  paymentKey := "key-1"
  expectedAmount := amount
  payerCompanyId := "company-1"
  payerName := "Payer"
  payerEmail := none
  payerPhone := none
  payeeCompanyId := "company-2"
  payeeName := "Payee"

/-- The identity under which an empty store files its first payment. -/
def identity : PaymentId :=
  ⟨"x", by decide⟩

/-- Surroundings in which it is always noon, and in which the gateway has approved the payment just
now and cancels it when it is told to. -/
def cue : Cue where
  now := noon
  supply := .spare
  lookup key :=
    .ok
      { paymentKey := key
        orderId := "order-1"
        status := .done
        totalAmount := amount
        balanceAmount := none
        suppliedAmount := none
        vat := none
        approvedAt := some noon
        requestedAt := none
        transactionKey := none
        method := none
        failure := none }
  cancel key order :=
    .ok
      { paymentKey := key
        orderId := "order-1"
        status := .canceled
        totalAmount := amount
        balanceAmount := none
        cancels := [⟨amount, some order.reason, none, "cancel-1"⟩] }
  heard _ := .ok ()

end Sample

end Payments
