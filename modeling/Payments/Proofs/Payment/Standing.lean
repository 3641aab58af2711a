import Payments.Proofs.Decimal.Sums
import Payments.Proofs.Payment.Transition
import Payments.Proofs.Store.Writes

/-!
# Payments.Proofs.Payment.Standing -- a payment before, during and after its refund

The service only ever stores payments that stand in one of three ways. Most are *open*: the
verification is over, well or badly, and nothing has been given back. One whose refund has begun is
*refunding*. The verdict on the refund then closes it for good: everything was given back, or
nothing.

As a refund gives back all that is left, and nothing has been given back before, the sums are exact:
what is left is the amount itself, and what has been given back in the end is the amount itself.
-/

namespace Payments

namespace Ledger

variable {l : Ledger}

/-- Before anything has been given back, what is left is the amount. -/
theorem refundable_of_zero (hz : l.refunded = Decimal.zero) (hpos : ¬ l.amount ≤ Decimal.zero) :
    l.refundable = .ok l.amount := by
  rw [refundable, hz, Decimal.sub?_zero hpos]

/-- Giving back the amount at once refunds it in full. -/
theorem refund_amount_of_zero (hz : l.refunded = Decimal.zero)
    (hpos : ¬ l.amount ≤ Decimal.zero) :
    l.refund l.amount = .ok { l with refunded := l.amount } := by
  refine refund_eq_ok.2 ⟨hpos, l.amount, ?_, Int.lt_irrefl _, rfl⟩
  rw [hz, Decimal.zero_add?]

end Ledger

namespace Payment

/-- How often a deletion counts the version up. -/
def mark (p : Payment) : Nat :=
  if p.isDeleted then 1 else 0

theorem isDeleted_of_no_deletion {p : Payment} (h : p.deletion = none) : p.isDeleted = false := by
  rw [isDeleted, h]
  rfl

theorem mark_of_undeleted {p : Payment} (h : p.isDeleted = false) : p.mark = 0 := by
  rw [mark, h]
  rfl

/-- Nothing has been given back of the payment, and the gateway can be told to. -/
structure IsUntouched (p : Payment) : Prop where
  refunded : p.ledger.refunded = Decimal.zero
  positive : ¬ p.ledger.amount ≤ Decimal.zero
  key : ∃ key, p.reference.paymentKey = some key

/-- The verification is over, and no refund has begun. -/
structure IsOpen (p : Payment) : Prop extends p.IsUntouched where
  status : p.status = .verified ∨ p.status = .verificationFailed

/-- An open payment that no store has written yet. -/
structure IsDraft (p : Payment) : Prop extends p.IsOpen where
  id : p.id = none
  deletion : p.deletion = none
  version : p.version = 0

/-- The record of an open payment. -/
structure IsOpenRecord (p : Payment) : Prop extends p.IsOpen where
  version : p.version = 1 + p.mark

/-- The record of a payment whose refund has begun, as it was stored then. -/
structure IsRefunding (p : Payment) (i : PaymentId) : Prop extends p.IsUntouched where
  id : p.id = some i
  status : p.status = .refunding
  deletion : p.deletion = none
  version : p.version = 2

theorem IsOpen.status_ne_refunding {p : Payment} (h : p.IsOpen) : p.status ≠ .refunding := by
  intro hs
  rcases h.status with hv | hf
  · cases hs.symm.trans hv
  · cases hs.symm.trans hf

theorem IsDraft.inserted {p : Payment} (h : p.IsDraft) (i : PaymentId) (now : Instant) :
    (p.inserted i now).IsOpenRecord where
  refunded := h.refunded
  positive := h.positive
  key := h.key
  status := h.status
  version := by
    have hd : (p.inserted i now).isDeleted = false := isDeleted_of_no_deletion h.deletion
    rw [mark_of_undeleted hd]
    exact congrArg (· + 1) h.version

theorem IsOpenRecord.removed {p : Payment} (h : p.IsOpenRecord) (hd : p.isDeleted = false)
    (deletedBy : String) (now : Instant) : (p.removed deletedBy now).IsOpenRecord where
  refunded := h.refunded
  positive := h.positive
  key := h.key
  status := h.status
  version := by
    have hv := h.version
    rw [mark_of_undeleted hd] at hv
    exact congrArg (· + 1) hv

/-- The payment `r` is `p`, or `p` deleted. -/
def UpToDeletion (p r : Payment) : Prop :=
  r = p ∨ ∃ deletedBy now, r = p.removed deletedBy now

theorem UpToDeletion.eq_of_undeleted {p r : Payment} (h : p.UpToDeletion r)
    (hr : r.isDeleted = false) : r = p := by
  rcases h with h | ⟨deletedBy, now, rfl⟩
  · exact h
  · cases hr

theorem UpToDeletion.status {p r : Payment} (h : p.UpToDeletion r) : r.status = p.status := by
  rcases h with rfl | ⟨deletedBy, now, rfl⟩ <;> rfl

theorem UpToDeletion.reference {p r : Payment} (h : p.UpToDeletion r) :
    r.reference = p.reference := by
  rcases h with rfl | ⟨deletedBy, now, rfl⟩ <;> rfl

/-! ## A refund begins -/

/-- The payment with its refund begun. -/
def begun (p : Payment) (reason : String) : Payment :=
  { p with status := .refunding, refundReason := some reason }

/-- The record as it stands when a refund may begin. -/
structure IsVerifiedRecord (p : Payment) (i : PaymentId) : Prop extends p.IsUntouched where
  id : p.id = some i
  status : p.status = .verified
  deletion : p.deletion = none
  version : p.version = 1

theorem IsOpenRecord.verified {p : Payment} {i : PaymentId} (h : p.IsOpenRecord)
    (hi : p.id = some i) (hd : p.isDeleted = false) (hs : p.status.isRefundable = true) :
    p.IsVerifiedRecord i where
  refunded := h.refunded
  positive := h.positive
  key := h.key
  id := hi
  status := by
    rcases h.status with hv | hf
    · exact hv
    · rw [hf] at hs
      cases hs
  deletion := Option.isSome_eq_false_iff.1 hd |> Option.isNone_iff_eq_none.1
  version := by
    rw [h.version, mark_of_undeleted hd]

theorem IsVerifiedRecord.begun {p : Payment} {i : PaymentId} (h : p.IsVerifiedRecord i)
    (reason : String) (now : Instant) : ((p.begun reason).written now).IsRefunding i where
  refunded := h.refunded
  positive := h.positive
  key := h.key
  id := h.id
  status := rfl
  deletion := h.deletion
  version := congrArg (· + 1) h.version

/-! ## A refund ends -/

/-- The verdict on a refund: the gateway has made it, under an id that was entered at an instant, or
it could not be made. -/
inductive Verdict where
  | made (refundId : String) (at_ : Instant)
  | failed (cause : PaymentError)

namespace Verdict

/-- The payment with the verdict entered. -/
def enter (q : Payment) : Verdict → Payment
  | made refundId at_ =>
    { q with
      reference := q.reference.addRefund refundId at_
      status := .refunded
      ledger := { q.ledger with refunded := q.ledger.amount }
      refundedAt := some at_ }
  | failed cause => { q with status := .refundFailed, failureReason := some cause.message }

variable (v : Verdict) (q : Payment)

theorem enter_id : (v.enter q).id = q.id := by
  cases v <;> rfl

theorem enter_version : (v.enter q).version = q.version := by
  cases v <;> rfl

theorem enter_deletion : (v.enter q).deletion = q.deletion := by
  cases v <;> rfl

theorem enter_status : (v.enter q).status = .refunded ∨ (v.enter q).status = .refundFailed := by
  cases v with
  | made refundId at_ => exact Or.inl rfl
  | failed cause => exact Or.inr rfl

theorem enter_status_ne_refunding : (v.enter q).status ≠ .refunding := by
  intro hs
  rcases v.enter_status q with hr | hf
  · cases hs.symm.trans hr
  · cases hs.symm.trans hf

end Verdict

variable {q : Payment} {i : PaymentId}

theorem IsRefunding.completeRefund (h : q.IsRefunding i) (refundId : String) (now : Instant) :
    q.completeRefund q.ledger.amount refundId now = .ok ((Verdict.made refundId now).enter q) := by
  refine completeRefund_eq_ok.2
    ⟨h.status, _, Ledger.refund_amount_of_zero h.refunded h.positive, ?_⟩
  have hfull : ({ q.ledger with refunded := q.ledger.amount } : Ledger).isFullyRefunded = true :=
    decide_eq_true (Decimal.equiv_iff_units.2 rfl)
  rw [hfull]
  rfl

theorem IsRefunding.failRefund (h : q.IsRefunding i) (cause : PaymentError) :
    q.failRefund cause.message = .ok ((Verdict.failed cause).enter q) :=
  failRefund_eq_ok.2 ⟨h.status, rfl⟩

end Payment

/-! ## The two writes of a refund -/

namespace Store

open Payment (Verdict)

variable {s : Store} {i : PaymentId}

/-- The beginning of a refund is stored over the verified record. -/
theorem save_begun {p : Payment} (h : p.IsVerifiedRecord i) (hr : s.record? i = some p)
    (reason : String) (fresh : PaymentId) (now : Instant) :
    s.save (p.begun reason) fresh now =
      (.ok ((p.begun reason).written now), s.file i ((p.begun reason).written now)) := by
  have hid : (p.begun reason).id = some i := h.id
  have hversion : (p.begun reason).version = 1 := h.version
  rw [save_of_id fresh now hid]
  exact update_of_current now hid hr rfl (by rw [hversion]; decide)

/-- The verdict on a refund is stored over the record of its beginning. -/
theorem save_entered {q : Payment} (hq : q.IsRefunding i) (hr : s.record? i = some q)
    (v : Verdict) (fresh : PaymentId) (now : Instant) :
    s.save (v.enter q) fresh now =
      (.ok ((v.enter q).written now), s.file i ((v.enter q).written now)) := by
  have hid : (v.enter q).id = some i := (v.enter_id q).trans hq.id
  have hversion : (v.enter q).version = 2 := (v.enter_version q).trans hq.version
  rw [save_of_id fresh now hid]
  exact update_of_current now hid hr (hq.version.trans hversion.symm) (by rw [hversion]; decide)

end Store

end Payments
