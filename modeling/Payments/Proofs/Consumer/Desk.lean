import Payments.Consumer
import Payments.Proofs.Traffic.Admission

/-!
# Payments.Proofs.Consumer.Desk -- one refund request after another

A consumer handles one delivery to its end before it takes the next. A `Desk` is the store it works
on, together with what the gateway was told to cancel and what was handed to the publisher.

There are only two ways that handling a delivery can go. If the store admits the refund
(`Store.Admits`: the payment is there, verified and of that order), the refund is carried out, well
or badly, and the record is closed for good (`Desk.Carried`). If not, the delivery fails before it
asks for anything but the record, and leaves the desk as it was (`Desk.serve_of_not_admits`).
-/

namespace Payments

open Payment (Verdict)
open Service

/-! ## Handling a delivery -/

/-- A store, what the gateway was told to cancel and what was handed to the publisher, in order. -/
structure Desk where
  store : Store
  orders : List (String × Gateway.CancelOrder)
  events : List Event

/-- What the gateway was told to cancel, and under which payment key. -/
def Reply.order? (d : Reply) : Option (String × Gateway.CancelOrder) :=
  match d.request with
  | .cancel key order => some (key, order)
  | _ => none

/-- A delivery with what the surroundings have ready for each request while it is handled. -/
structure Handling where
  delivery : Delivery
  cues : Nat → Cue

/-- What the delivery asks for. -/
abbrev Handling.request (x : Handling) : RefundRequest :=
  x.delivery.request

namespace Desk

/-- The desk after a request that left the store `s`. -/
def note (d : Desk) (s : Store) : Request → Desk
  | .cancel key order => ⟨s, d.orders ++ [(key, order)], d.events⟩
  | .publish e => ⟨s, d.orders, d.events ++ [e]⟩
  | .now | .store _ | .lookup _ => { d with store := s }

/-- Carries a procedure out to its end: the result, and the desk after it. -/
def serve {α : Type} : Procedure α → (Nat → Cue) → Desk → α × Desk
  | .done a, _, d => (a, d)
  | .ask r next, cues, d =>
    serve (next ((cues 0).answer d.store r).1) (fun k => cues (k + 1))
      (d.note ((cues 0).answer d.store r).2 r)

/-- Handles a delivery: what it comes to, and the desk after it. -/
def handle (d : Desk) (x : Handling) : Outcome (Payment × Acknowledgement) × Desk :=
  serve x.delivery.handle.run x.cues d

variable {d : Desk} {i : PaymentId} {q : Payment} {cues : Nat → Cue}

/-- The desk after a procedure that ran alone on its store. -/
def after {α : Type} (d : Desk) (x : Solo α) : Desk :=
  ⟨x.store, d.orders ++ x.dialogue.filterMap Reply.order?, d.events ++ x.events⟩

/-- A request that came before the run has been noted before it. -/
theorem after_following {α : Type} (d : Desk) (s : Store) (r : Request) (a : r.Answer)
    (x : Solo α) : d.after (x.following ⟨r, a⟩) = (d.note s r).after x := by
  unfold after
  rw [Solo.events_following]
  cases r with
  | cancel key order | publish e =>
    simp [Solo.following, List.filterMap_cons, Reply.order?, Reply.event?, note]
  | now | store _ | lookup _ => rfl

/-- At a desk a procedure is carried out alone. -/
theorem serve_eq {α : Type} (p : Procedure α) (cues : Nat → Cue) (d : Desk) :
    serve p cues d = ((p.alone cues d.store).result, d.after (p.alone cues d.store)) := by
  induction p generalizing cues d with
  | done a => simp [serve, after, Procedure.alone, Solo.events]
  | ask r next ih =>
    have hstore : (d.note ((cues 0).answer d.store r).2 r).store =
        ((cues 0).answer d.store r).2 := by
      cases r <;> rfl
    rw [serve, ih, hstore, Procedure.alone_ask, after_following]
    rfl

/-- What is made of a result in the end does not change what is asked for. -/
theorem serve_bind_done {α β : Type} (p : Procedure α) (f : α → β) (cues : Nat → Cue) (d : Desk) :
    serve (p.bind fun a => .done (f a)) cues d =
      (f (serve p cues d).1, (serve p cues d).2) := by
  induction p generalizing cues d with
  | done a => rfl
  | ask r next ih => exact ih _ _ _

/-- Handling a delivery is a refund, and the acknowledgement is added to its result. -/
theorem handle_eq (d : Desk) (x : Handling) :
    d.handle x =
      let r := serve (refund x.request.paymentId x.request.orderId
        x.request.reason).run x.cues d
      (r.1.map fun p => (p, x.delivery.acknowledgement), r.2) := by
  rw [← serve_bind_done]
  unfold handle Delivery.handle
  rw [Attempt.run_bind]
  congr 2
  funext o
  cases o <;> rfl

/-! ## A refund that is not admitted -/

/-- A refund that the store does not admit fails, having asked for the record at most. -/
theorem serve_of_not_admits (h : d.store.Ready) {paymentId orderId : String}
    (hno : ¬ d.store.Admits paymentId orderId) (reason : String) (cues : Nat → Cue) :
    ∃ f, serve (refund paymentId orderId reason).run cues d = (.error f, d) := by
  cases hid : PaymentId.ofText paymentId with
  | error f =>
    rw [run_refund_of_blank orderId reason hid]
    exact ⟨f, rfl⟩
  | ok i =>
    obtain rfl : i.text = paymentId := PaymentId.text_of_ofText hid
    rw [run_refund]
    obtain ⟨f, hf⟩ := found_of_not_admits h hno reason
    refine ⟨f, ?_⟩
    show serve (found i orderId reason (d.store.findById i)) _ d = _
    rw [hf]
    rfl

/-! ## A refund that is carried out -/

/-- A refund of the payment has been carried out from the desk `d` on, with the verdict that follows
from what the gateway answered. The verdict was stored at an instant, and the refund has come to a
result and left the desk `d'`; `q` is the payment with its refund begun. -/
structure Carried (d : Desk) (i : PaymentId) (reason : String) (gateway : Cue) (q : Payment)
    (v : Verdict) (storedAt : Instant) (o : Outcome Payment) (d' : Desk) : Prop where
  begun : q.IsRefunding i
  result : o = v.result ((v.enter q).written storedAt)
  record : d'.store.record? i = some ((v.enter q).written storedAt)
  others : ∀ j, j ≠ i → d'.store.record? j = d.store.record? j
  orders : ∃ key, q.reference.paymentKey = some key ∧
    d'.orders = d.orders ++ [(key, .full reason)] ∧
    v.Follows (gateway.cancel key (.full reason))
  events : ∃ announcedAt, d'.events = d.events ++
    [v.announcement ((v.enter q).written storedAt) q.ledger.amount reason announcedAt]

/-- With the order to the gateway given, and the verdict that follows filed and announced, the
refund has been carried out. -/
theorem Carried.of_filed {s : Store} (hq : q.IsRefunding i)
    (hothers : ∀ j, j ≠ i → s.record? j = d.store.record? j) {key : String}
    (hkey : q.reference.paymentKey = some key) {gateway : Cue} {v : Verdict} {reason : String}
    (hv : v.Follows (gateway.cancel key (.full reason))) (storedAt announcedAt : Instant) :
    let saved := (v.enter q).written storedAt
    d.Carried i reason gateway q v storedAt (v.result saved)
      ⟨s.file i saved, d.orders ++ [(key, .full reason)],
        d.events ++ [v.announcement saved q.ledger.amount reason announcedAt]⟩ where
  begun := hq
  result := rfl
  record := Store.record?_file_self s i _
  others := fun j hj => (Store.record?_file_of_ne _ hj).trans (hothers j hj)
  orders := ⟨key, hkey, rfl, hv⟩
  events := ⟨announcedAt, rfl⟩

/-- A refund that the store admits is carried out. -/
theorem serve_of_admits {paymentId orderId : String} (h : d.store.Admits paymentId orderId)
    (reason : String) (cues : Nat → Cue) :
    ∃ i q v storedAt o d', PaymentId.ofText paymentId = .ok i ∧
      serve (refund paymentId orderId reason).run cues d = (o, d') ∧
      d.Carried i reason (cues 2) q v storedAt o d' := by
  obtain ⟨i, p, hid, hrecord, hverified, rfl⟩ := h
  obtain rfl : i.text = paymentId := PaymentId.text_of_ofText hid
  obtain ⟨key, hkey⟩ := hverified.key
  have hq := hverified.begun reason (cues 1).now
  have hr := Store.record?_file_self d.store i ((p.begun reason).written (cues 1).now)
  have hothers : ∀ j, j ≠ i →
      (d.store.file i ((p.begun reason).written (cues 1).now)).record? j = d.store.record? j :=
    fun j hj => Store.record?_file_of_ne _ hj
  suffices hcarried : ∃ v storedAt,
      let x := (refund i.text p.orderId reason).run.alone cues d.store
      d.Carried i reason (cues 2) ((p.begun reason).written (cues 1).now) v storedAt x.result
        (d.after x) by
    obtain ⟨v, storedAt, hcarried⟩ := hcarried
    exact ⟨i, _, v, storedAt, _, _, hid, serve_eq _ cues d, hcarried⟩
  rw [alone_refund hverified hrecord reason hkey cues]
  simp only [alone_answered, alone_settling hq hr]
  cases hanswer : (cues 2).cancel key (.full reason) >>= refundId with
  | error e =>
    have hv : (Verdict.failed (.gateway e)).Follows ((cues 2).cancel key (.full reason)) :=
      ⟨e, hanswer, rfl⟩
    exact ⟨_, _, .of_filed hq hothers hkey hv (cues 3).now (cues 4).now⟩
  | ok id =>
    -- the time of the refund is asked for in between
    have hv : (Verdict.made id (cues 3).now).Follows ((cues 2).cancel key (.full reason)) := hanswer
    exact ⟨_, _, .of_filed hq hothers hkey hv (cues 4).now (cues 5).now⟩

end Desk

end Payments
