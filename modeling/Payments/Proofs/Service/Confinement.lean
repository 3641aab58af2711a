import Payments.Proofs.Service.Course

/-!
# Payments.Proofs.Service.Confinement -- calls that have to do with one payment

A deletion or a refund is called with the identity of a payment, and every request that it puts to
the store or to the listeners is about that payment (`Service.stays_delete`,
`Service.stays_refund`). What it goes on to write or to announce is what the store has handed to it
before, with the identity left alone. So the claim that a request is about the payment rests on what
the answers before it were about, and a procedure is `Confined` if every request is, provided that
all answers so far were (`Request.Returns`).
-/

namespace Payments

/-- The payment has the identity with this text. -/
def Payment.IsUnder (text : String) (p : Payment) : Prop :=
  ∃ i, p.id = some i ∧ i.text = text

namespace Request

/-- The request is about no payment but that under the text. The gateway and the clock do not know
payments by their identity. -/
def StaysWith (text : String) : Request → Prop
  | .store (.findById i) => i.text = text
  | .store (.save p) | .store (.delete p _) => p.IsUnder text
  | .publish e => e.paymentId = text
  | .now | .lookup _ | .cancel _ _ => True
  | .store _ => False

/-- The answer is about no payment but that under the text. -/
def Returns (text : String) : (r : Request) → r.Answer → Prop
  | .store (.findById _), found => ∀ p, found = some p → p.IsUnder text
  | .store (.save _), saved | .store (.delete _ _), saved => ∀ p, saved = .ok p → p.IsUnder text
  | _, _ => True

end Request

namespace Procedure

variable {α β : Type} {text : String} {P : α → Prop} {Q : β → Prop}

/-- As long as the answers are about the payment, so are the requests, and in the end the result has
the property. -/
def Confined (text : String) (P : α → Prop) : Procedure α → Prop
  | done a => P a
  | ask r next => r.StaysWith text ∧ ∀ a, r.Returns text a → (next a).Confined text P

theorem Confined.bind {p : Procedure α} {f : α → Procedure β} (hp : p.Confined text P)
    (hf : ∀ a, P a → (f a).Confined text Q) : (p.bind f).Confined text Q := by
  induction p with
  | done a => exact hf a hp
  | ask r next ih => exact ⟨hp.1, fun a ha => ih a (hp.2 a ha)⟩

end Procedure

namespace Service

open Attempt Procedure

variable {α β : Type} {text : String} {P : α → Prop} {Q : β → Prop}

/-- A procedure that may fail is confined to one payment, and if it does not fail, its result has
the property. -/
abbrev Stays (text : String) (P : α → Prop) (x : Attempt α) : Prop :=
  x.run.Confined text fun o => ∀ a, o = .ok a → P a

theorem Stays.bind {x : Attempt α} {f : α → Attempt β} (hx : Stays text P x)
    (hf : ∀ a, P a → Stays text Q (f a)) : Stays text Q (x >>= f) := by
  show (x >>= f).run.Confined _ _
  rw [run_bind]
  apply Confined.bind hx
  intro o ho
  cases o with
  | ok a => exact hf a (ho a rfl)
  | error e => exact nofun

theorem stays_ofOutcome {o : Outcome α} (h : ∀ a, o = .ok a → P a) :
    Stays text P (ofOutcome o) :=
  h

theorem stays_error (f : Failure) : Stays text P (ofOutcome (.error f) : Attempt α) :=
  nofun

theorem stays_refuse (e : PaymentError) : Stays text P (refuse e : Attempt α) :=
  stays_error (.refused e)

theorem stays_request {r : Request} (h : r.StaysWith text) :
    Stays text (r.Returns text) (ExceptT.lift (request r)) :=
  ⟨h, fun _ ha _ hb => Except.ok.inj hb ▸ ha⟩

theorem stays_save {p : Payment} (h : p.IsUnder text) :
    Stays text (Payment.IsUnder text) (save p) :=
  Stays.bind (stays_request (r := .store (.save p)) h) fun _ ho => stays_ofOutcome ho

theorem stays_find (paymentId : String) :
    Stays paymentId (Payment.IsUnder paymentId) (find paymentId) := by
  refine Stays.bind (P := fun i => i.text = paymentId)
    (stays_ofOutcome fun i hi => PaymentId.text_of_ofText hi) fun i hi => ?_
  refine Stays.bind (stays_request (r := .store (.findById i)) hi) fun found hfound => ?_
  cases found with
  | none => exact stays_refuse _
  | some p => exact fun q hq => Except.ok.inj hq ▸ hfound p rfl

/-- A deletion has to do with one payment only. -/
theorem stays_delete (paymentId deletedBy : String) :
    Stays paymentId (Payment.IsUnder paymentId) (delete paymentId deletedBy) := by
  refine Stays.bind (stays_find paymentId) fun p hp => ?_
  exact Stays.bind (stays_request (r := .store (.delete p deletedBy)) hp)
    fun _ ho => stays_ofOutcome ho

/-! ## Refunds -/

/-- A step of a payment's life leaves its identity alone. -/
theorem isUnder_of_apply {t : Payment.Transition} {p q : Payment} (hp : p.IsUnder text)
    (h : t.apply p = .ok q) : q.IsUnder text := by
  obtain ⟨i, hi, ht⟩ := hp
  exact ⟨i, (t.sameOrigin h).id.trans hi, ht⟩

theorem isUnder_of_beginRefund {p : Payment} {paymentId orderId reason : String}
    {x : Payment × Decimal} (hp : p.IsUnder text)
    (h : beginRefund p paymentId orderId reason = .ok x) : x.1.IsUnder text := by
  unfold beginRefund at h
  split at h
  · cases h
  · obtain ⟨amount, -, h⟩ := Except.bind_eq_ok.1 h
    obtain ⟨begun, hbegun, h⟩ := Except.bind_eq_ok.1 h
    cases h
    exact isUnder_of_apply (t := .startRefund amount reason) hp hbegun

theorem stays_execute {p : Payment} (hp : p.IsUnder text) (amount : Decimal) (reason : String) :
    Stays text (Payment.IsUnder text) (execute p amount reason) := by
  unfold execute
  cases p.reference.paymentKey with
  | none => exact stays_refuse _
  | some key =>
    refine Stays.bind (stays_request (r := .cancel key (.full reason)) trivial) fun answer _ => ?_
    cases answer with
    | error e => exact stays_refuse _
    | ok answer =>
      dsimp only
      cases refundId answer with
      | error e => exact stays_refuse _
      | ok id =>
        refine Stays.bind (stays_request (r := .now) trivial) fun at_ _ => ?_
        exact stays_ofOutcome fun q hq =>
          isUnder_of_apply (t := .completeRefund amount id at_) hp hq

theorem stays_announce {e : Event} (h : e.paymentId = text) :
    Stays text (fun _ => True) (announce e) :=
  Stays.bind (stays_request (r := .publish e) h) fun _ _ => stays_ofOutcome fun _ _ => trivial

theorem idText_of_isUnder {p : Payment} (h : p.IsUnder text) : p.idText = text := by
  obtain ⟨i, hi, rfl⟩ := h
  rw [Payment.idText, hi]

theorem stays_conclude {p : Payment} (hp : p.IsUnder text) (amount : Decimal) (reason : String) :
    Stays text (Payment.IsUnder text) (conclude p amount reason) := by
  refine Stays.bind (stays_save hp) fun saved hsaved => ?_
  refine Stays.bind (stays_request (r := .now) trivial) fun t _ => ?_
  refine Stays.bind (stays_announce (idText_of_isUnder hsaved)) fun _ _ => ?_
  exact stays_ofOutcome fun q hq => Except.ok.inj hq ▸ hsaved

theorem stays_abandon {p : Payment} (hp : p.IsUnder text) (amount : Decimal)
    (cause : PaymentError) : Stays text (Payment.IsUnder text) (abandon p amount cause) := by
  refine Stays.bind (P := Payment.IsUnder text)
    (stays_ofOutcome fun q hq => isUnder_of_apply (t := .failRefund cause.message) hp hq)
    fun failed hfailed => ?_
  refine Stays.bind (stays_save hfailed) fun saved hsaved => ?_
  refine Stays.bind (stays_request (r := .now) trivial) fun t _ => ?_
  exact Stays.bind (stays_announce (idText_of_isUnder hsaved)) fun _ _ => stays_refuse _

theorem stays_carryOut {p : Payment} (hp : p.IsUnder text) (amount : Decimal) (reason : String) :
    Stays text (Payment.IsUnder text) (carryOut p amount reason) := by
  unfold carryOut Stays
  rw [run_lift_bind]
  -- the refund goes on after a failure too, to store and announce it
  apply Confined.bind (stays_execute hp amount reason)
  intro o ho
  cases o with
  | ok refunded => exact stays_conclude (ho refunded rfl) amount reason
  | error f =>
    cases f with
    | refused cause => exact stays_abandon hp amount cause
    | overflowed o => exact stays_error (.overflowed o)

/-- A refund has to do with one payment only. -/
theorem stays_refund (paymentId orderId reason : String) :
    Stays paymentId (Payment.IsUnder paymentId) (refund paymentId orderId reason) := by
  refine Stays.bind (stays_find paymentId) fun p hp => ?_
  refine Stays.bind (P := fun x => x.1.IsUnder paymentId)
    (stays_ofOutcome fun x hx => isUnder_of_beginRefund hp hx) fun x hx => ?_
  exact Stays.bind (stays_save hx) fun begun hbegun => stays_carryOut hbegun x.2 reason

end Service

end Payments
