import Payments.Proofs.Consumer.Desk

/-!
# Payments.Proofs.Consumer.Redelivery -- deliveries that come again

A transport hands over a request until it is acknowledged, and then perhaps once more. However the
first delivery went, a later one of the same payment and order comes to nothing: the payment was
missing or of another order and stays so, or it could not be refunded any more, or the first
delivery has closed it. No delivery makes a store admit a refund that it did not admit before
(`Store.Closes`), and every delivery makes it refuse its own from then on.

Hence a later delivery can be left out without a trace, and at most one delivery of each payment is
acknowledged, after its refund has been stored and announced
(`Desk.redelivery_changes_nothing`).
-/

namespace Payments

open Payment (Verdict)
open Service

/-! ## What a delivery closes -/

/-- From `s` to `s'` no refund has become possible. -/
def Store.Closes (s s' : Store) : Prop :=
  ∀ paymentId orderId, s'.Admits paymentId orderId → s.Admits paymentId orderId

namespace Desk

variable {d d' : Desk} {i : PaymentId} {q : Payment} {v : Verdict} {reason : String}
  {gateway : Cue} {storedAt : Instant} {o : Outcome Payment}

/-- A refund that was carried out leaves a record that no refund can begin on. -/
theorem Carried.not_isRefundable (_ : d.Carried i reason gateway q v storedAt o d') :
    ((v.enter q).written storedAt).status.isRefundable = false := by
  show (v.enter q).status.isRefundable = false
  rcases v.enter_status q with hs | hs <;> rw [hs] <;> rfl

theorem Carried.not_admits (h : d.Carried i reason gateway q v storedAt o d') (orderId : String) :
    ¬ d'.store.Admits i.text orderId := by
  rintro ⟨j, p, hj, hp, hverified, -⟩
  obtain rfl : i = j := Except.ok.inj ((PaymentId.ofText_text i).symm.trans hj)
  obtain rfl : _ = p := Option.some.inj (h.record.symm.trans hp)
  have hclosed := h.not_isRefundable
  rw [hverified.status] at hclosed
  cases hclosed

theorem Carried.closes (h : d.Carried i reason gateway q v storedAt o d') :
    d.store.Closes d'.store := by
  intro paymentId orderId hadmits
  have hadmits' := hadmits
  obtain ⟨j, p, hj, hp, hverified, horder⟩ := hadmits
  by_cases hji : j = i
  · subst hji
    rw [← PaymentId.text_of_ofText hj] at hadmits'
    exact absurd hadmits' (h.not_admits orderId)
  · exact ⟨j, p, hj, (h.others j hji).symm.trans hp, hverified, horder⟩

theorem Carried.ready (h : d.Carried i reason gateway q v storedAt o d') (hd : d.store.Ready) :
    d'.store.Ready where
  filed := by
    intro j p hp
    by_cases hji : j = i
    · subst hji
      obtain rfl : _ = p := Option.some.inj (h.record.symm.trans hp)
      exact (v.enter_id q).trans h.begun.id
    · exact hd.filed j p ((h.others j hji).symm.trans hp)
  standing := by
    intro j p hp
    by_cases hji : j = i
    · subst hji
      obtain rfl : _ = p := Option.some.inj (h.record.symm.trans hp)
      exact .inr h.not_isRefundable
    · exact hd.standing j p ((h.others j hji).symm.trans hp)

/-- The refund succeeds just if the gateway answers its one order with a refund that has an id. -/
theorem Carried.isOk_iff (h : d.Carried i reason gateway q v storedAt o d') :
    ∃ key, d'.orders = d.orders ++ [(key, .full reason)] ∧
      (o.isOk = true ↔ ∃ id, (gateway.cancel key (.full reason) >>= refundId) = .ok id) := by
  obtain ⟨key, -, horders, hfollows⟩ := h.orders
  refine ⟨key, horders, ?_⟩
  rw [h.result]
  cases v with
  | made id at_ => exact ⟨fun _ => ⟨id, hfollows⟩, fun _ => rfl⟩
  | failed cause =>
    obtain ⟨e, hanswer, -⟩ := hfollows
    refine ⟨nofun, fun ⟨id, hid⟩ => ?_⟩
    cases hanswer.symm.trans hid

/-! ## One delivery -/

/-- A delivery that the store does not admit fails and leaves the desk as it was. -/
theorem handle_of_not_admits (h : d.store.Ready) {x : Handling}
    (hno : ¬ d.store.Admits x.request.paymentId x.request.orderId) :
    ∃ f, d.handle x = (.error f, d) := by
  obtain ⟨f, hf⟩ := serve_of_not_admits h hno x.request.reason x.cues
  refine ⟨f, ?_⟩
  rw [handle_eq]
  simp only [hf]
  rfl

/-- A delivery that the store admits is a refund that is carried out. -/
theorem handle_of_admits {x : Handling}
    (h : d.store.Admits x.request.paymentId x.request.orderId) :
    ∃ i q v storedAt o d', i.text = x.request.paymentId ∧
      d.handle x = (o.map fun p => (p, x.delivery.acknowledgement), d') ∧
      d.Carried i x.request.reason (x.cues 2) q v storedAt o d' := by
  obtain ⟨i, q, v, storedAt, o, d', hid, hserve, hcarried⟩ :=
    serve_of_admits h x.request.reason x.cues
  refine ⟨i, q, v, storedAt, o, d', PaymentId.text_of_ofText hid, ?_, hcarried⟩
  rw [handle_eq]
  simp only [hserve]

/-- A delivery keeps the store ready, makes no refund possible and none of its own payment and order
from then on. -/
theorem handle_closes (h : d.store.Ready) (x : Handling) :
    (d.handle x).2.store.Ready ∧ d.store.Closes (d.handle x).2.store ∧
      ¬ (d.handle x).2.store.Admits x.request.paymentId x.request.orderId := by
  by_cases hadmits : d.store.Admits x.request.paymentId x.request.orderId
  · obtain ⟨i, q, v, storedAt, o, d', hid, hhandle, hcarried⟩ := handle_of_admits hadmits
    rw [hhandle, ← hid]
    exact ⟨hcarried.ready h, hcarried.closes, hcarried.not_admits _⟩
  · obtain ⟨f, hhandle⟩ := handle_of_not_admits h hadmits
    rw [hhandle]
    exact ⟨h, fun _ _ ha => ha, hadmits⟩

/-- A delivery that the store admits is acknowledged just if the gateway, whose answer is the third
that the refund gets, makes the refund. -/
theorem acknowledged_iff {x : Handling}
    (h : d.store.Admits x.request.paymentId x.request.orderId) :
    ∃ key, (d.handle x).2.orders = d.orders ++ [(key, .full x.request.reason)] ∧
      ((d.handle x).1.isOk = true ↔
        ∃ id, ((x.cues 2).cancel key (.full x.request.reason) >>= refundId) = .ok id) := by
  obtain ⟨i, q, v, storedAt, o, d', -, hhandle, hcarried⟩ := handle_of_admits h
  obtain ⟨key, horders, hok⟩ := hcarried.isOk_iff
  rw [hhandle]
  refine ⟨key, horders, Iff.trans ?_ hok⟩
  cases o <;> exact Iff.rfl

/-- The payment is refunded and stored so, the event of its refund is the last that was handed to
the publisher, and no further refund of it is possible. -/
structure Settled (d : Desk) (x : Handling) (p : Payment) (ack : Acknowledgement) (d' : Desk) :
    Prop where
  acknowledgement : ack = x.delivery.acknowledgement
  record : ∃ i : PaymentId, i.text = x.request.paymentId ∧ d'.store.record? i = some p
  status : p.status = .refunded
  event : ∃ amount announcedAt, d'.events = d.events ++
    [.refunded (RefundDone.of p amount x.request.reason announcedAt)]
  closed : ∀ orderId, ¬ d'.store.Admits x.request.paymentId orderId

/-- At the moment when a delivery is acknowledged, its refund is stored and announced. -/
theorem settled_of_ok (h : d.store.Ready) {x : Handling} {p : Payment} {ack : Acknowledgement}
    (hok : (d.handle x).1 = .ok (p, ack)) : d.Settled x p ack (d.handle x).2 := by
  by_cases hadmits : d.store.Admits x.request.paymentId x.request.orderId
  · obtain ⟨i, q, v, storedAt, o, d', hid, hhandle, hcarried⟩ := handle_of_admits hadmits
    rw [hhandle] at hok ⊢
    have hresult := hcarried.result
    cases v with
    | failed cause =>
      rw [hresult] at hok
      cases hok
    | made refundId at_ =>
      rw [hresult] at hok
      cases hok
      obtain ⟨announcedAt, hevents⟩ := hcarried.events
      exact
        { acknowledgement := rfl
          record := ⟨i, hid, hcarried.record⟩
          status := rfl
          event := ⟨q.ledger.amount, announcedAt, hevents⟩
          closed := hid ▸ hcarried.not_admits }
  · obtain ⟨f, hhandle⟩ := handle_of_not_admits h hadmits
    rw [hhandle] at hok
    cases hok

/-! ## One delivery after another -/

/-- A delivery and what handling it came to. -/
structure Handled where
  delivery : Delivery
  outcome : Outcome (Payment × Acknowledgement)

/-- Whether a delivery of the payment was acknowledged. -/
def Handled.acknowledges (paymentId : String) (y : Handled) : Bool :=
  y.delivery.request.paymentId == paymentId && y.outcome.isOk

/-- Handles deliveries one after another: what each came to, and the desk at the end. -/
def handleAll : List Handling → Desk → List Handled × Desk
  | [], d => ([], d)
  | x :: xs, d =>
    let (o, d') := d.handle x
    let (ys, d'') := handleAll xs d'
    (⟨x.delivery, o⟩ :: ys, d'')

theorem handleAll_append (xs ys : List Handling) (d : Desk) :
    handleAll (xs ++ ys) d =
      ((handleAll xs d).1 ++ (handleAll ys (handleAll xs d).2).1,
        (handleAll ys (handleAll xs d).2).2) := by
  induction xs generalizing d with
  | nil => rfl
  | cons x xs ih =>
    show (_ :: (handleAll (xs ++ ys) (d.handle x).2).1,
      (handleAll (xs ++ ys) (d.handle x).2).2) = _
    rw [ih]
    rfl

/-- Every delivery gets a result. -/
theorem length_handleAll (xs : List Handling) (d : Desk) :
    (handleAll xs d).1.length = xs.length := by
  induction xs generalizing d with
  | nil => rfl
  | cons x xs ih => exact congrArg (· + 1) (ih (d.handle x).2)

/-- After deliveries the store is ready, no refund has become possible, and none is of a payment and
an order that a delivery named. -/
theorem handleAll_closes (h : d.store.Ready) (xs : List Handling) :
    (handleAll xs d).2.store.Ready ∧ d.store.Closes (handleAll xs d).2.store ∧
      ∀ x ∈ xs, ¬ (handleAll xs d).2.store.Admits x.request.paymentId x.request.orderId := by
  induction xs generalizing d with
  | nil => exact ⟨h, fun _ _ ha => ha, fun x hx => absurd hx List.not_mem_nil⟩
  | cons x xs ih =>
    obtain ⟨hready, hcloses, hown⟩ := handle_closes h x
    obtain ⟨hready', hcloses', hown'⟩ := ih hready
    refine ⟨hready', fun paymentId orderId ha => hcloses _ _ (hcloses' _ _ ha), ?_⟩
    intro y hy
    rcases List.mem_cons.1 hy with rfl | hy
    · exact fun ha => hown (hcloses' _ _ ha)
    · exact hown' y hy

/-- Of a payment that cannot be refunded for any order no delivery is acknowledged. -/
theorem filter_acknowledges_of_closed (h : d.store.Ready) {paymentId : String}
    (hclosed : ∀ orderId, ¬ d.store.Admits paymentId orderId) (xs : List Handling) :
    (handleAll xs d).1.filter (Handled.acknowledges paymentId) = [] := by
  induction xs generalizing d with
  | nil => rfl
  | cons x xs ih =>
    obtain ⟨hready, hcloses, -⟩ := handle_closes h x
    have hrest := ih hready fun orderId ha => hclosed orderId (hcloses _ _ ha)
    have hx : Handled.acknowledges paymentId ⟨x.delivery, (d.handle x).1⟩ = false := by
      by_cases hid : x.request.paymentId = paymentId
      · subst hid
        obtain ⟨f, hhandle⟩ := handle_of_not_admits h (hclosed x.request.orderId)
        rw [hhandle]
        exact Bool.and_false _
      · rw [Handled.acknowledges, beq_false_of_ne hid, Bool.false_and]
    show List.filter _ (⟨x.delivery, (d.handle x).1⟩ :: (handleAll xs (d.handle x).2).1) = []
    rw [List.filter_cons, hx]
    exact hrest

/-- At most one delivery of a payment is acknowledged. -/
theorem length_filter_acknowledges (h : d.store.Ready) (paymentId : String)
    (xs : List Handling) :
    ((handleAll xs d).1.filter (Handled.acknowledges paymentId)).length ≤ 1 := by
  induction xs generalizing d with
  | nil => exact Nat.zero_le 1
  | cons x xs ih =>
    obtain ⟨hready, -, -⟩ := handle_closes h x
    have hrest := ih hready
    show (List.filter _ (⟨x.delivery, (d.handle x).1⟩ ::
      (handleAll xs (d.handle x).2).1)).length ≤ 1
    rw [List.filter_cons]
    cases hx : Handled.acknowledges paymentId ⟨x.delivery, (d.handle x).1⟩ with
    | false => exact hrest
    | true =>
      -- the first delivery that is acknowledged closes the payment for all that come after it
      obtain ⟨hid, hok⟩ := Bool.and_eq_true_iff.1 hx
      obtain rfl : x.request.paymentId = paymentId := eq_of_beq hid
      cases hresult : (d.handle x).1 with
      | error f =>
        rw [hresult] at hok
        cases hok
      | ok result =>
        have hclosed := (settled_of_ok h hresult).closed
        rw [filter_acknowledges_of_closed hready hclosed xs]
        exact Nat.le_refl 1

/-- A delivery that comes after one of the same payment and order fails and leaves the desk as it
was. -/
theorem handle_again (h : d.store.Ready) {earlier : List Handling} {x y : Handling}
    (hy : y ∈ earlier) (hpayment : y.request.paymentId = x.request.paymentId)
    (horder : y.request.orderId = x.request.orderId) :
    ∃ f, (handleAll earlier d).2.handle x = (.error f, (handleAll earlier d).2) := by
  obtain ⟨hready, -, hown⟩ := handleAll_closes h earlier
  have hno := hown y hy
  rw [hpayment, horder] at hno
  exact handle_of_not_admits hready hno

/-- Deliveries are handled one after another on any store that the service has written, each in
surroundings of its own. A delivery that comes after one of the same payment and order, whatever the
reason it gives, fails, and leaving it out changes neither the desk in the end nor what any other
delivery comes to. At most one delivery of each payment is acknowledged, and at that moment its
refund is stored and announced. A delivery of a payment that is verified and of its order is
acknowledged just if the gateway makes the refund. -/
theorem redelivery_changes_nothing {d : Desk}
    (h : ∃ moves, d.store = (Traffic.after moves).store) (xs : List Handling) :
    (∀ earlier x later, xs = earlier ++ x :: later →
        (∃ y ∈ earlier, y.request.paymentId = x.request.paymentId ∧
          y.request.orderId = x.request.orderId) →
        ∃ before after f d', before.length = earlier.length ∧
          handleAll xs d = (before ++ ⟨x.delivery, .error f⟩ :: after, d') ∧
          handleAll (earlier ++ later) d = (before ++ after, d')) ∧
      (∀ paymentId,
        ((handleAll xs d).1.filter (Handled.acknowledges paymentId)).length ≤ 1) ∧
      (∀ earlier x later p ack, xs = earlier ++ x :: later →
        ((handleAll earlier d).2.handle x).1 = .ok (p, ack) →
        (handleAll earlier d).2.Settled x p ack ((handleAll earlier d).2.handle x).2) ∧
      ∀ earlier x later, xs = earlier ++ x :: later →
        (handleAll earlier d).2.store.Admits x.request.paymentId x.request.orderId →
        ∃ key, ((handleAll earlier d).2.handle x).2.orders =
            (handleAll earlier d).2.orders ++ [(key, .full x.request.reason)] ∧
          (((handleAll earlier d).2.handle x).1.isOk = true ↔
            ∃ id, ((x.cues 2).cancel key (.full x.request.reason) >>= refundId) = .ok id) := by
  obtain ⟨moves, hstore⟩ := h
  have hready : d.store.Ready := hstore ▸ Store.ready_after moves
  refine ⟨?again, fun paymentId => length_filter_acknowledges hready paymentId xs, ?moment,
    fun earlier x later _ hadmits => acknowledged_iff hadmits⟩
  case again =>
    rintro earlier x later rfl ⟨y, hy, hpayment, horder⟩
    obtain ⟨f, hf⟩ := handle_again hready hy hpayment horder
    refine ⟨(handleAll earlier d).1, (handleAll later (handleAll earlier d).2).1, f,
      (handleAll later (handleAll earlier d).2).2, length_handleAll earlier d, ?_,
      handleAll_append earlier later d⟩
    rw [handleAll_append, handleAll, hf]
  case moment =>
    intro earlier x later p ack _ hok
    exact settled_of_ok (handleAll_closes hready earlier).1 hok

/-- A request to refund the payment of the sample, as it is delivered with an offset. -/
def sampleDelivery (offset : Int) : Handling where
  delivery := ⟨0, offset, ⟨Sample.identity.text, "order-1", "changed my mind", none⟩⟩
  cues _ := Sample.cue

/-- The desk after the payment of the sample has been registered. -/
def sampleDesk : Desk where
  store :=
    (Traffic.after
      (.call (.register Sample.registration) :: List.replicate 8 (.answer 0 Sample.cue))).store
  orders := []
  events := []

/-- The request is delivered twice, and only the first delivery is acknowledged. -/
theorem redelivery_changes_nothing_sample :
    (handleAll [sampleDelivery 7, sampleDelivery 8] sampleDesk).1.map (·.outcome.isOk) =
        [true, false] ∧
      ∃ before after f d', before.length = 1 ∧
        handleAll [sampleDelivery 7, sampleDelivery 8] sampleDesk =
          (before ++ ⟨(sampleDelivery 8).delivery, .error f⟩ :: after, d') ∧
        handleAll [sampleDelivery 7] sampleDesk = (before ++ after, d') := by
  obtain ⟨hagain, -⟩ := redelivery_changes_nothing (d := sampleDesk) ⟨_, rfl⟩
    [sampleDelivery 7, sampleDelivery 8]
  exact ⟨by decide, hagain [sampleDelivery 7] (sampleDelivery 8) [] rfl
    ⟨sampleDelivery 7, List.mem_singleton_self _, rfl, rfl⟩⟩

end Desk

end Payments
