import Payments.Proofs.Decimal.Exact
import Payments.Proofs.Store.Frames
import Payments.Proofs.Traffic.Admission

/-!
# Payments.Proofs.Traffic.RefundAlone -- a refund that runs alone, from end to end

A refund that runs alone comes to one of three ends (`refund_alone`). Either a check refuses it, and
nothing has happened. Or it is carried out, with one order to the gateway and one announcement; what
the gateway answers then decides whether the record says that everything was given back, or that the
refund has failed. Whether the announcement is heard does not matter.

Which of the checks refuses is told by the store alone (`Store.refundRefusal`). That no other
failure comes up rests on what the records of a store look like that only the service has written:
what has been given back of a payment is nothing or everything, so what is left can always be
computed (`Store.reckonable_after`).
-/

namespace Payments

open Payment (Verdict)
open Service

/-! ## What is left of a stored payment -/

theorem Decimal.exists_sub?_self (d : Decimal) : ∃ e, d.sub? d = some e := by
  obtain ⟨e, he, -⟩ := Decimal.sub?_exact (Nat.le_refl d.scale) (Nat.le_refl d.scale) d.scale_le
    (by rw [Int.sub_self]; decide)
  exact ⟨e, he⟩

theorem Ledger.exists_refundable_of_amount {l : Ledger} (h : l.refunded = l.amount) :
    ∃ left, l.refundable = .ok left := by
  obtain ⟨left, hleft⟩ := l.amount.exists_sub?_self
  exact ⟨left, by rw [Ledger.refundable, h, hleft]⟩

/-- Whatever a refund has got to, what is left of the payment can be computed. -/
theorem Progress.exists_refundable {i : PaymentId} {q : Payment} (hq : q.IsRefunding i)
    (g : Progress) : ∃ left, (g.record q).ledger.refundable = .ok left := by
  have hnone : ∃ left, q.ledger.refundable = .ok left :=
    ⟨_, Ledger.refundable_of_zero hq.refunded hq.positive⟩
  have entered (v : Verdict) : ∃ left, (v.enter q).ledger.refundable = .ok left := by
    cases v with
    | made refundId at_ => exact Ledger.exists_refundable_of_amount rfl
    | failed cause => exact hnone
  cases g with
  | calling | made | settling | lost => exact hnone
  | dating v | announcing v | ended v => exact entered v

namespace Store

/-- What is left of every payment on record can be computed. -/
def Reckonable (s : Store) : Prop :=
  ∀ i p, s.record? i = some p → ∃ left, p.ledger.refundable = .ok left

theorem reckonable_after (moves : List Move) : (Traffic.after moves).store.Reckonable := by
  intro i p hp
  rcases ((Traffic.sound_after moves).accounts i).standing with hfree | ⟨n, x, q, g, howned⟩
  · have hopen := hfree.isOpen p hp
    exact ⟨_, Ledger.refundable_of_zero hopen.refunded hopen.positive⟩
  · obtain ⟨r, hr, hupto⟩ := howned.record
    cases hp.symm.trans hr
    have hledger : p.ledger = (g.record q).ledger := by
      rcases hupto with rfl | ⟨deletedBy, now, rfl⟩ <;> rfl
    rw [hledger]
    exact g.exists_refundable howned.begun

end Store

/-! ## The checks before a refund -/

/-- Why a refund of the payment is refused, if it is: the payment belongs to another order, or it
cannot be refunded. -/
def Payment.refundRefusal (p : Payment) (paymentId orderId : String) : Option PaymentError :=
  if p.orderId ≠ orderId then some (.orderMismatch paymentId orderId)
  else if p.status.isRefundable then none
  else some (.refundNotAllowed p.status)

theorem Payment.of_refundRefusal_eq_none {p : Payment} {paymentId orderId : String}
    (h : p.refundRefusal paymentId orderId = none) :
    p.orderId = orderId ∧ p.status.isRefundable = true := by
  unfold refundRefusal at h
  split at h
  · cases h
  · next horder =>
    split at h
    · next hstatus => exact ⟨Decidable.not_not.1 horder, hstatus⟩
    · cases h

namespace Store

variable {s : Store} {i : PaymentId}

/-- Why a refund is refused before anything happens, if it is: there is no such identity, no such
payment, or the payment itself gives a reason. The first of these counts. -/
def refundRefusal (s : Store) (paymentId orderId : String) : Option PaymentError :=
  match PaymentId.of? paymentId with
  | none => some (.invalidValue "payment_id")
  | some i =>
    match s.findById i with
    | none => some (.paymentNotFound paymentId)
    | some p => p.refundRefusal paymentId orderId

theorem refundRefusal_of_missing (h : s.findById i = none) (orderId : String) :
    s.refundRefusal i.text orderId = some (.paymentNotFound i.text) := by
  rw [refundRefusal, PaymentId.of?, dif_pos i.notBlank]
  simp only [h]

theorem refundRefusal_of_found {p : Payment} (h : s.findById i = some p) (orderId : String) :
    s.refundRefusal i.text orderId = p.refundRefusal i.text orderId := by
  rw [refundRefusal, PaymentId.of?, dif_pos i.notBlank]
  simp only [h]

end Store

namespace Service

variable {s : Store} {p : Payment} {paymentId orderId : String}

/-- If the payment gives a reason, the refund does not begin. -/
theorem beginRefund_of_refusal {e : PaymentError} (h : p.refundRefusal paymentId orderId = some e)
    (hleft : ∃ left, p.ledger.refundable = .ok left) (reason : String) :
    beginRefund p paymentId orderId reason = Payments.refuse e := by
  unfold Payment.refundRefusal at h
  unfold beginRefund
  by_cases horder : p.orderId ≠ orderId
  · rw [if_pos horder] at h ⊢
    cases h
    rfl
  · rw [if_neg horder] at h ⊢
    cases hstatus : p.status.isRefundable with
    | true =>
      rw [hstatus] at h
      cases h
    | false =>
      rw [hstatus] at h
      cases h
      obtain ⟨left, hleft⟩ := hleft
      rw [hleft]
      show (p.startRefund left reason >>= _) = _
      rw [Payment.startRefund, hstatus]
      rfl

/-- Once the refund has looked for its payment, it is refused for the reason that the store tells.
-/
theorem found_of_refusal (hs : s.Reckonable) {i : PaymentId} {e : PaymentError}
    (h : s.refundRefusal i.text orderId = some e) (reason : String) :
    found i orderId reason (s.findById i) = .done (Payments.refuse e) := by
  cases hfound : s.findById i with
  | none =>
    rw [Store.refundRefusal_of_missing hfound] at h
    cases h
    rfl
  | some p =>
    rw [Store.refundRefusal_of_found hfound] at h
    have hleft := hs i p (Store.findById_eq_some.1 hfound).1
    simp only [found, beginRefund_of_refusal h hleft]
    rfl

/-- If the store tells no reason, it has a verified record of the order. -/
theorem admits_of_no_refusal (hs : s.Ready) (h : s.refundRefusal paymentId orderId = none) :
    s.Admits paymentId orderId := by
  cases hid : PaymentId.of? paymentId with
  | none =>
    rw [Store.refundRefusal, hid] at h
    cases h
  | some i =>
    have hof : PaymentId.ofText paymentId = .ok i := by rw [PaymentId.ofText, hid]
    obtain rfl := PaymentId.text_of_ofText hof
    cases hfound : s.findById i with
    | none =>
      rw [Store.refundRefusal_of_missing hfound] at h
      cases h
    | some p =>
      rw [Store.refundRefusal_of_found hfound] at h
      obtain ⟨hrecord, hundeleted⟩ := Store.findById_eq_some.1 hfound
      obtain ⟨horder, hstatus⟩ := Payment.of_refundRefusal_eq_none h
      rcases hs.standing i p hrecord with hopen | hclosed
      · have hverified := hopen.verified (hs.filed i p hrecord) hundeleted hstatus
        exact ⟨i, p, hof, hrecord, hverified, horder⟩
      · cases hstatus.symm.trans hclosed

/-! ## The run of a refund -/

variable {i : PaymentId} {q : Payment}

/-- A refund that is refused has looked for its payment at most. -/
theorem alone_refund_of_refusal (hs : s.Reckonable) {e : PaymentError}
    (h : s.refundRefusal paymentId orderId = some e) (reason : String) (cues : Nat → Cue) :
    (refund paymentId orderId reason).run.alone cues s =
      ⟨Payments.refuse e, s,
        ((PaymentId.of? paymentId).map fun i =>
          ⟨.store (.findById i), s.findById i⟩).toList⟩ := by
  cases hid : PaymentId.of? paymentId with
  | none =>
    have hof : PaymentId.ofText paymentId = .error (.refused (.invalidValue "payment_id")) := by
      rw [PaymentId.ofText, hid]
      rfl
    rw [Store.refundRefusal, hid] at h
    cases h
    rw [run_refund_of_blank orderId reason hof]
    rfl
  | some i =>
    have hof : PaymentId.ofText paymentId = .ok i := by rw [PaymentId.ofText, hid]
    obtain rfl := PaymentId.text_of_ofText hof
    rw [run_refund, Procedure.alone_ask]
    simp only [Cue.answer, StoreRequest.serve, found_of_refusal hs h reason]
    rfl

end Service

/-! ## What a refund comes to -/

namespace Solo

variable {α : Type}

/-- Two runs that differ at most in whether somebody listened: they ask the same, come to the same
result and leave the same store. -/
structure SameButHeard (x y : Solo α) : Prop where
  result : x.result = y.result
  store : x.store = y.store
  requests : x.dialogue.map Reply.request = y.dialogue.map Reply.request

theorem SameButHeard.following {x y : Solo α} (h : x.SameButHeard y) {d e : Reply}
    (hde : d.request = e.request) : (x.following d).SameButHeard (y.following e) where
  result := h.result
  store := h.store
  requests := congrArg₂ List.cons hde h.requests

/-- The refund of the record `p` was made under an id of the gateway; it has left the record `r`. -/
structure RefundMade (x : Solo (Outcome Payment)) (p r : Payment) (reason refundId : String) :
    Prop where
  result : x.result = .ok r
  status : r.status = .refunded
  amount : r.ledger.amount = p.ledger.amount
  refunded : r.ledger.refunded = p.ledger.amount
  refundReason : r.refundReason = some reason
  refundId : r.reference.refundId = some refundId
  events : ∃ at_, x.events = [.refunded (RefundDone.of r p.ledger.amount reason at_)]

/-- The refund of the record `p` could not be made; it has left the record `r`. -/
structure RefundGivenUp (x : Solo (Outcome Payment)) (p r : Payment) (cause : PaymentError) :
    Prop where
  result : x.result = refuse (.refundProcessingFailed cause)
  status : r.status = .refundFailed
  ledger : r.ledger = p.ledger
  reference : r.reference = p.reference
  failureReason : r.failureReason = some cause.message
  events : ∃ at_,
    x.events = [.refundFailed (RefundFailed.of r p.ledger.amount cause.message at_)]

/-- What the gateway's answer to the order to cancel makes of a refund. -/
def RefundEnds (x : Solo (Outcome Payment)) (p r : Payment) (reason : String) :
    Except GatewayError Gateway.CancelAnswer → Prop
  | .error e => x.RefundGivenUp p r (.gateway e)
  | .ok answer =>
    match answer.cancels.getLast? with
    | some entry => x.RefundMade p r reason entry.transactionKey
    | none =>
      x.RefundGivenUp p r
        (.gateway (.malformedResponse "cancel response has no cancel entries"))

variable {x : Solo (Outcome Payment)} {p r : Payment} {reason : String} {d : Reply}

theorem events_following_of_silent (hd : d.event? = none) (x : Solo α) :
    (x.following d).events = x.events := by
  rw [events_following, hd]
  rfl

theorem RefundEnds.of_some {answer : Gateway.CancelAnswer} {entry : Gateway.Cancellation}
    (hlast : answer.cancels.getLast? = some entry)
    (h : x.RefundMade p r reason entry.transactionKey) : x.RefundEnds p r reason (.ok answer) := by
  rw [RefundEnds, hlast]
  exact h

theorem RefundEnds.of_none {answer : Gateway.CancelAnswer} (hlast : answer.cancels.getLast? = none)
    (h : x.RefundGivenUp p r
      (.gateway (.malformedResponse "cancel response has no cancel entries"))) :
    x.RefundEnds p r reason (.ok answer) := by
  rw [RefundEnds, hlast]
  exact h

/-- What a refund comes to does not depend on the requests before, as long as they announce nothing.
-/
theorem RefundEnds.following {answer : Except GatewayError Gateway.CancelAnswer}
    (h : x.RefundEnds p r reason answer) (hd : d.event? = none) :
    (x.following d).RefundEnds p r reason answer := by
  have hevents := x.events_following_of_silent hd
  unfold RefundEnds at h ⊢
  split at h
  · exact { h with events := by rw [hevents]; exact h.events }
  · split at h
    · exact { h with events := by rw [hevents]; exact h.events }
    · exact { h with events := by rw [hevents]; exact h.events }

end Solo

namespace Service

variable {s : Store} {i : PaymentId} {p : Payment}

theorem refundId_eq (answer : Gateway.CancelAnswer) :
    refundId answer =
      match answer.cancels.getLast? with
      | some entry => .ok entry.transactionKey
      | none => .error (.malformedResponse "cancel response has no cancel entries") := by
  unfold refundId Gateway.CancelAnswer.latestRefundId?
  cases answer.cancels.getLast? <;> rfl

/-- Once the gateway has answered, the refund ends as the answer says, and asks nothing more of the
gateway. -/
theorem refundEnds_answered (h : p.IsVerifiedRecord i) {reason : String} {begunAt : Instant}
    (hr : s.record? i = some ((p.begun reason).written begunAt))
    (answer : Except GatewayError Gateway.CancelAnswer) (cues : Nat → Cue) :
    let x := (answered ((p.begun reason).written begunAt) reason answer).alone cues s
    ∃ r, x.store = s.file i r ∧ x.RefundEnds p r reason answer ∧ x.gatewayRequests = [] := by
  have hq := h.begun reason begunAt
  intro x
  have givenUp (e : GatewayError) (cues : Nat → Cue) :
      let y := (settling (.failed (.gateway e)) ((p.begun reason).written begunAt) reason).alone
        cues s
      ∃ r, y.store = s.file i r ∧ y.RefundGivenUp p r (.gateway e) ∧ y.gatewayRequests = [] := by
    rw [alone_settling hq hr]
    exact ⟨_, rfl, ⟨rfl, rfl, rfl, rfl, rfl, ⟨_, rfl⟩⟩, rfl⟩
  cases answer with
  | error e => exact givenUp e cues
  | ok answer =>
    have hx : x = _ := alone_answered _ reason (.ok answer) cues s
    have hid : (Except.ok answer >>= refundId) = refundId answer := rfl
    rw [hid, refundId_eq] at hx
    cases hlast : answer.cancels.getLast? with
    | none =>
      rw [hlast] at hx
      obtain ⟨r, hstore, hends, hsilent⟩ := givenUp _ cues
      exact ⟨r, hx ▸ hstore, .of_none hlast (hx ▸ hends), hx ▸ hsilent⟩
    | some entry =>
      rw [hlast] at hx
      simp only [alone_settling hq hr] at hx
      refine ⟨_, congrArg Solo.store hx, .of_some hlast ?_, congrArg Solo.gatewayRequests hx⟩
      rw [hx]
      exact ⟨rfl, rfl, rfl, rfl, rfl, rfl, ⟨_, rfl⟩⟩

/-- Whether the announcement was heard makes no difference to the refund. -/
theorem sameButHeard_answered {q : Payment} (hq : q.IsRefunding i) (hr : s.record? i = some q)
    (reason : String) (answer : Except GatewayError Gateway.CancelAnswer) (cues : Nat → Cue)
    (heard : Nat → Event → Except PaymentError Unit) :
    ((answered q reason answer).alone (fun k => { cues k with heard := heard k }) s).SameButHeard
      ((answered q reason answer).alone cues s) := by
  rw [alone_answered, alone_answered]
  cases answer >>= refundId with
  | error e =>
    simp only [alone_settling hq hr]
    exact ⟨rfl, rfl, rfl⟩
  | ok id =>
    simp only [alone_settling hq hr]
    exact ⟨rfl, rfl, rfl⟩

end Service

/-- A refund that runs alone comes to exactly one of three ends, whatever calls have written the
store. It is refused for the first reason that the store tells, and nothing has happened. Otherwise
the gateway is told once to cancel the payment of the record, and its answer decides: with an entry
for the cancellation, the record is refunded in full under the id of the last entry; without one, or
with an error, the record says that the refund has failed, and everything else in it about money
stays. Either way no other record has changed, and the outcome is announced once. Whether that is
heard makes no difference. The order to cancel is the third request of the refund, after the look-up
and the first write. -/
theorem refund_alone (moves : List Move) (paymentId orderId reason : String)
    (cues : Nat → Cue) :
    let s := (Traffic.after moves).store
    let x := (Service.refund paymentId orderId reason).run.alone cues s
    (match s.refundRefusal paymentId orderId with
      | some e =>
        x.result = refuse e ∧ x.store = s ∧ x.gatewayRequests = [] ∧ x.events = []
      | none =>
        ∃ p r key, s.recordUnder paymentId = some p ∧ p.reference.paymentKey = some key ∧
          x.gatewayRequests = [.cancel key (.full reason)] ∧
          x.store.recordUnder paymentId = some r ∧ Store.SameBut paymentId s x.store ∧
          x.RefundEnds p r reason ((cues 2).cancel key (.full reason))) ∧
    ∀ heard : Nat → Event → Except PaymentError Unit,
      let y := (Service.refund paymentId orderId reason).run.alone
        (fun k => { cues k with heard := heard k }) s
      y.SameButHeard x := by
  intro s x
  cases hrefusal : s.refundRefusal paymentId orderId with
  | some e =>
    have hrun := Service.alone_refund_of_refusal (Store.reckonable_after moves) hrefusal reason
    have hx : x = _ := hrun cues
    refine ⟨?_, ?_⟩
    · rw [hx]
      cases PaymentId.of? paymentId <;> exact ⟨rfl, rfl, rfl, rfl⟩
    · intro heard y
      have hy : y = x := (hrun _).trans hx.symm
      exact hy ▸ ⟨rfl, rfl, rfl⟩
  | none =>
    obtain ⟨i, p, hid, hrecord, hverified, rfl⟩ :=
      Service.admits_of_no_refusal (Store.ready_after moves) hrefusal
    obtain rfl := PaymentId.text_of_ofText hid
    obtain ⟨key, hkey⟩ := hverified.key
    have hrun := Service.alone_refund hverified hrecord reason hkey
    have hx : x = _ := hrun cues
    have hbegun := hverified.begun reason (cues 1).now
    have hstored := s.record?_file_self i ((p.begun reason).written (cues 1).now)
    refine ⟨?_, ?_⟩
    · obtain ⟨r, hstore, hends, hsilent⟩ := Service.refundEnds_answered hverified hstored
        ((cues 2).cancel key (.full reason)) fun k => cues (k + 3)
      have hleft : x.store = (s.file i ((p.begun reason).written (cues 1).now)).file i r := by
        rw [hx]
        exact hstore
      refine ⟨p, r, key, ?_, hkey, ?_, ?_, ?_, ?_⟩
      · exact (s.recordUnder_text i).trans hrecord
      · rw [hx]
        exact congrArg (List.cons _) hsilent
      · rw [hleft, Store.recordUnder_text, Store.record?_file_self]
      · rw [hleft]
        exact (Store.sameBut_file hrecord _).trans (Store.sameBut_file hstored r)
      · rw [hx]
        exact ((hends.following rfl).following rfl).following rfl
    · intro heard y
      have hy : y = _ := hrun _
      rw [hx, hy]
      exact (((Service.sameButHeard_answered hbegun hstored reason _ _ _).following rfl).following
        rfl).following rfl

end Payments
