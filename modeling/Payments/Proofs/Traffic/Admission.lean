import Payments.Proofs.Traffic.Alone
import Payments.Proofs.Traffic.Soundness

/-!
# Payments.Proofs.Traffic.Admission -- which refunds a store admits, and how they run

A store admits a refund (`Store.Admits`) if the payment is there, verified and of that order. Every
store that calls have written is `Ready`: its records are open, or can no longer be refunded. So
what is not admitted fails as soon as it has looked for its payment (`Service.found_of_not_admits`),
and what is admitted runs to its end, which is told here request by request
(`Service.alone_refund`, `Service.alone_answered`, `Service.alone_settling`).
-/

namespace Payments

open Payment (Verdict)
open Service

/-! ## Which refunds a store admits -/

namespace Store

/-- Every record is filed under its identity, and is open or can no longer be refunded. -/
structure Ready (s : Store) : Prop where
  filed : s.Filed
  standing : ∀ i p, s.record? i = some p → p.IsOpenRecord ∨ p.status.isRefundable = false

/-- The payment is there, verified and of that order. -/
def Admits (s : Store) (paymentId orderId : String) : Prop :=
  ∃ i p, PaymentId.ofText paymentId = .ok i ∧ s.record? i = some p ∧ p.IsVerifiedRecord i ∧
    p.orderId = orderId

/-- A store that is written by the service is ready at any time, whatever calls are in flight. -/
theorem ready_after (moves : List Move) : (Traffic.after moves).store.Ready where
  filed := (Traffic.sound_after moves).filed
  standing := by
    intro i p hp
    rcases ((Traffic.sound_after moves).accounts i).standing with hfree | ⟨n, x, q, g, howned⟩
    · exact .inl (hfree.isOpen p hp)
    · obtain ⟨r, hr, hupto⟩ := howned.record
      obtain rfl : p = r := Option.some.inj (hp.symm.trans hr)
      right
      rw [hupto.status]
      exact Progress.record_not_isRefundable howned.begun.status

end Store

namespace Service

/-- On a verified record of the order, a refund begins with the whole amount. -/
theorem beginRefund_of_verified {p : Payment} {i : PaymentId} (h : p.IsVerifiedRecord i)
    (paymentId reason : String) :
    beginRefund p paymentId p.orderId reason = .ok (p.begun reason, p.ledger.amount) := by
  have hleft := Ledger.refundable_of_zero h.refunded h.positive
  have hstatus : p.status.isRefundable = true := by
    rw [h.status]
    rfl
  have hbegun : p.startRefund p.ledger.amount reason = .ok (p.begun reason) :=
    Payment.startRefund_eq_ok.2
      ⟨hstatus, h.positive, ⟨p.ledger.amount, hleft, Int.lt_irrefl _⟩, rfl⟩
  rw [beginRefund, if_neg (fun hne => hne rfl), hleft]
  show (p.startRefund p.ledger.amount reason >>= fun begun => _) = _
  rw [hbegun]
  rfl

/-- What has been found is no record that a refund is admitted on, so the refund fails. -/
theorem found_of_not_admits {s : Store} (h : s.Ready) {i : PaymentId} {orderId : String}
    (hno : ¬ s.Admits i.text orderId) (reason : String) :
    ∃ f, found i orderId reason (s.findById i) = .done (.error f) := by
  cases hfound : s.findById i with
  | none => exact ⟨_, rfl⟩
  | some p =>
    obtain ⟨hrecord, hundeleted⟩ := Store.findById_eq_some.1 hfound
    cases hbegin : beginRefund p i.text orderId reason with
    | error f => exact ⟨f, by simp only [found, hbegin]⟩
    | ok x =>
      rcases h.standing i p hrecord with hopen | hclosed
      · obtain ⟨hverified, -⟩ :=
          beginRefund_of_open hopen (h.filed i p hrecord) hundeleted hbegin
        by_cases horder : p.orderId = orderId
        · exact absurd ⟨i, p, PaymentId.ofText_text i, hrecord, hverified, horder⟩ hno
        · rw [beginRefund, if_pos horder] at hbegin
          cases hbegin
      · exact absurd hbegin (beginRefund_of_not_refundable hclosed)

end Service

/-! ## The run of a refund that is admitted -/

namespace Service

variable {s : Store} {i : PaymentId} {q : Payment}

/-- A refund that has its verdict stores it and announces it. -/
theorem alone_settling (hq : q.IsRefunding i) (hr : s.record? i = some q) (v : Verdict)
    (reason : String) (cues : Nat → Cue) :
    (settling v q reason).alone cues s =
      let saved := (v.enter q).written (cues 0).now
      let event := v.announcement saved q.ledger.amount reason (cues 1).now
      ⟨v.result saved, s.file i saved,
        [⟨.store (.save (v.enter q)), .ok saved⟩, ⟨.now, (cues 1).now⟩,
          ⟨.publish event, (cues 2).heard event⟩]⟩ := by
  have hsave := Store.save_entered hq hr v ((cues 0).supply s) (cues 0).now
  unfold settling
  rw [Procedure.alone_ask]
  simp only [Cue.answer, StoreRequest.serve, hsave]
  rfl

/-- A refund that the gateway has answered has its verdict, once it has looked at the clock if the
refund was made. -/
theorem alone_answered (q : Payment) (reason : String)
    (answer : Except GatewayError Gateway.CancelAnswer) (cues : Nat → Cue) (s : Store) :
    (answered q reason answer).alone cues s =
      match answer >>= refundId with
      | .ok id =>
        ((settling (.made id (cues 0).now) q reason).alone (fun k => cues (k + 1)) s).following
          ⟨.now, (cues 0).now⟩
      | .error e => (settling (.failed (.gateway e)) q reason).alone cues s := by
  unfold answered
  cases answer >>= refundId <;> rfl

/-- A refund of a verified record stores that it begins, and asks the gateway. -/
theorem alone_refund {p : Payment} (h : p.IsVerifiedRecord i) (hr : s.record? i = some p)
    (reason : String) {key : String} (hkey : p.reference.paymentKey = some key)
    (cues : Nat → Cue) :
    (refund i.text p.orderId reason).run.alone cues s =
      let q := (p.begun reason).written (cues 1).now
      let answer := (cues 2).cancel key (.full reason)
      (((answered q reason answer).alone (fun k => cues (k + 3)) (s.file i q)).following
        ⟨.cancel key (.full reason), answer⟩).following
        ⟨.store (.save (p.begun reason)), .ok q⟩ |>.following ⟨.store (.findById i), some p⟩ := by
  have hundeleted : p.isDeleted = false := Payment.isDeleted_of_no_deletion h.deletion
  have hfound : s.findById i = some p := Store.findById_eq_some.2 ⟨hr, hundeleted⟩
  have hsave := Store.save_begun h hr reason ((cues 1).supply s) (cues 1).now
  obtain ⟨key', hkey', hrun⟩ := run_carryOut reason (h.begun reason (cues 1).now)
  cases hkey.symm.trans hkey'
  rw [run_refund, Procedure.alone_ask]
  simp only [Cue.answer, StoreRequest.serve, hfound, found,
    beginRefund_of_verified h i.text reason, claiming]
  rw [Procedure.alone_ask]
  change (carryOut _ p.ledger.amount reason).run = _ at hrun
  simp only [Cue.answer, StoreRequest.serve, hsave, claimed, hrun]
  rfl

end Service

end Payments
