import Payments.Proofs.Payment.Standing
import Payments.Service

/-!
# Payments.Proofs.Service.Course -- what a call asks for, request by request

Calls overlap, so what is known about a call has to be known between any two of its requests. A
registration or a look-up never does more than read, ask the gateway for an account and save a draft
(`only_register`). A deletion reads and then deletes what it read. A refund passes through a fixed
series of points, and its program at each point is written down here: what it asks next, and where
each answer takes it.
-/

namespace Payments

namespace Attempt

variable {α β : Type}

/-- What follows an operation that may fail is done if it has not failed. -/
theorem run_bind (x : Attempt α) (f : α → Attempt β) :
    (x >>= f).run = x.run.bind fun o =>
      match o with
      | .ok a => (f a).run
      | .error e => .done (.error e) := by
  show x.run.bind _ = _
  congr 1
  funext o
  cases o <;> rfl

theorem run_lift_bind (p : Procedure α) (f : α → Attempt β) :
    (ExceptT.lift p >>= f).run = p.bind fun a => (f a).run := by
  show (p.bind fun a => Procedure.done (Except.ok a)).bind _ = _
  rw [Procedure.bind_assoc]
  rfl

end Attempt

theorem PaymentId.ofText_text (i : PaymentId) : PaymentId.ofText i.text = .ok i := by
  rw [ofText, of?, dif_pos i.notBlank]

/-- A text that is accepted as an identity is the text of the identity. -/
theorem PaymentId.text_of_ofText {text : String} {i : PaymentId}
    (h : PaymentId.ofText text = .ok i) : i.text = text := by
  unfold ofText of? at h
  split at h
  · next hb =>
    split at hb
    · cases hb
      cases h
      rfl
    · cases hb
  · cases h

/-! ## Calls that do no harm -/

/-- Reads, accounts of the gateway and drafts to be saved. -/
def Request.IsHarmless : Request → Prop
  | .store (.save p) => p.IsDraft
  | .store (.delete _ _) | .cancel _ _ | .publish _ => False
  | .now | .store _ | .lookup _ => True

namespace Procedure

variable {α β : Type}

/-- Whatever the answers are, every request has the property. -/
def Only (P : Request → Prop) : Procedure α → Prop
  | done _ => True
  | ask r next => P r ∧ ∀ a, (next a).Only P

theorem Only.bind {P : Request → Prop} {p : Procedure α} {f : α → Procedure β} (hp : p.Only P)
    (hf : ∀ a, (f a).Only P) : (p.bind f).Only P := by
  induction p with
  | done a => exact hf a
  | ask r next ih => exact ⟨hp.1, fun a => ih a (hp.2 a)⟩

end Procedure

namespace Service

open Attempt Procedure
open Payment (Verdict)

/-- A procedure that may fail does no harm. -/
abbrev Harmless {α : Type} (x : Attempt α) : Prop :=
  x.run.Only Request.IsHarmless

variable {α β : Type}

theorem Harmless.bind {x : Attempt α} {f : α → Attempt β} (hx : Harmless x)
    (hf : ∀ a, Harmless (f a)) : Harmless (x >>= f) := by
  show (x >>= f).run.Only _
  rw [run_bind]
  apply Only.bind hx
  intro o
  cases o with
  | ok a => exact hf a
  | error e => exact trivial

theorem harmless_ofOutcome (o : Outcome α) : Harmless (ofOutcome o) := trivial

theorem Harmless.ofOutcome_bind {o : Outcome α} {f : α → Attempt β}
    (hf : ∀ a, o = .ok a → Harmless (f a)) : Harmless (ofOutcome o >>= f) := by
  cases o with
  | ok a => exact hf a rfl
  | error e => exact trivial

theorem Harmless.now_bind {f : Instant → Attempt β} (hf : ∀ t, Harmless (f t)) :
    Harmless (now >>= f) :=
  ⟨trivial, hf⟩

theorem harmless_find (paymentId : String) : Harmless (find paymentId) := by
  apply (harmless_ofOutcome _).bind
  intro i
  refine ⟨trivial, ?_⟩
  intro o
  cases o <;> exact trivial

theorem harmless_findByOrder (orderId : String) : Harmless (findByOrder orderId) := by
  refine ⟨trivial, ?_⟩
  intro o
  cases o <;> exact trivial

theorem harmless_findByGatewayPayment (id : String) : Harmless (findByGatewayPayment id) :=
  ⟨trivial, fun _ => trivial⟩

theorem harmless_search (c : Criteria) (r : PageRequest) : Harmless (search c r) :=
  ⟨trivial, fun _ => trivial⟩

theorem harmless_isVerified (paymentId : String) : Harmless (isVerified paymentId) := by
  show (ExceptT.map _ (find paymentId)).run.Only _
  exact Only.bind (harmless_find paymentId) fun o => by cases o <;> exact trivial

theorem harmless_isRefundable (paymentId : String) : Harmless (isRefundable paymentId) := by
  show (ExceptT.map _ (find paymentId)).run.Only _
  exact Only.bind (harmless_find paymentId) fun o => by cases o <;> exact trivial

/-- The payment that a registration and the gateway's account describe, field by field. -/
theorem exists_of_draft {r : Registration} {answer : Gateway.PaymentAnswer} {now : Instant}
    {p : Payment} (h : draft r answer now = .ok p) :
    ∃ ledger payer payee, Ledger.ofAmount answer.totalAmount = .ok ledger ∧
      p =
        { id := none
          orderId := r.orderId
          ledger, payer, payee
          reference :=
            { provider := r.provider
              paymentId := r.gatewayPaymentId
              paymentKey := some r.paymentKey
              transactionId := answer.transactionKey
              approvedAt := answer.approvedAt
              refundId := none
              refundedAt := none }
          status := .verifying
          verification := .pending
          failureReason := none
          refundReason := none
          createdAt := now
          verifiedAt := none
          refundedAt := none
          updatedAt := none
          deletion := none
          version := 0 } := by
  obtain ⟨reference, hr, h⟩ := Except.bind_eq_ok.1 h
  obtain ⟨payer, -, h⟩ := Except.bind_eq_ok.1 h
  obtain ⟨payee, -, h⟩ := Except.bind_eq_ok.1 h
  obtain ⟨created, hc, h⟩ := Except.bind_eq_ok.1 h
  obtain ⟨-, rfl⟩ := Payment.startVerification_eq_ok.1 h
  obtain ⟨ledger, hl, rfl⟩ := Payment.create_eq_ok hc
  obtain ⟨provider, hp, hr⟩ := Except.bind_eq_ok.1 hr
  obtain ⟨id, hi, hr⟩ := Except.bind_eq_ok.1 hr
  obtain ⟨-, rfl⟩ := requireText_eq_ok.1 hp
  obtain ⟨-, rfl⟩ := requireText_eq_ok.1 hi
  cases hr
  exact ⟨ledger, payer, payee, hl, rfl⟩

/-- What a registration describes has never been stored, and nothing has been given back of it. -/
theorem draft_eq_ok {r : Registration} {answer : Gateway.PaymentAnswer} {now : Instant}
    {p : Payment} (h : draft r answer now = .ok p) :
    p.IsUntouched ∧ p.id = none ∧ p.deletion = none ∧ p.version = 0 := by
  obtain ⟨ledger, payer, payee, hl, rfl⟩ := exists_of_draft h
  obtain ⟨hpos, ha, hz⟩ := Ledger.ofAmount_eq_ok hl
  refine ⟨⟨hz, ?_, r.paymentKey, rfl⟩, rfl, rfl, rfl⟩
  show ¬ ledger.amount ≤ _
  rw [ha]
  exact hpos

theorem harmless_insertVerified {p : Payment} (hp : p.IsDraft) : Harmless (insertVerified p) := by
  refine ⟨hp, ?_⟩
  intro o
  cases o with
  | ok saved => exact trivial
  | error f =>
    cases f with
    | overflowed o => exact trivial
    | refused e =>
      cases e with
      | duplicateGatewayPayment id =>
        -- the payment that got there first is looked up
        refine ⟨trivial, ?_⟩
        intro winner
        cases winner <;> exact trivial
      | _ => exact trivial

theorem harmless_recordFailure {p : Payment} (cause : PaymentError)
    (hp : ∀ failed, p.failVerification cause.message = .ok failed → failed.IsDraft) :
    Harmless (recordFailure p cause) := by
  unfold recordFailure
  cases hf : p.failVerification cause.message with
  | error f => exact trivial
  | ok failed =>
    refine ⟨hp failed hf, ?_⟩
    intro o
    cases o with
    | ok saved => exact trivial
    | error f => cases f <;> exact trivial

theorem harmless_settleRegistration (r : Registration) (answer : Gateway.PaymentAnswer) :
    Harmless (settleRegistration r answer) := by
  refine Harmless.now_bind fun t => Harmless.ofOutcome_bind fun p hd =>
    Harmless.now_bind fun checkedAt => Harmless.now_bind fun verifiedAt => ?_
  obtain ⟨hu, hi, hdel, hv⟩ := draft_eq_ok hd
  -- neither way of ending the verification touches what makes a payment a draft
  have stored {q : Payment} (hq : q.IsOpen) (hid : q.id = p.id) (hd : q.deletion = p.deletion)
      (hn : q.version = p.version) : q.IsDraft :=
    ⟨hq, hid.trans hi, hd.trans hdel, hn.trans hv⟩
  cases ha : assess p r.expectedAmount checkedAt verifiedAt with
  | ok verified =>
    obtain ⟨-, -, ha⟩ := Except.bind_eq_ok.1 ha
    obtain ⟨-, -, rfl⟩ := Payment.verify_eq_ok.1 ha
    exact harmless_insertVerified
      (stored ⟨⟨hu.refunded, hu.positive, hu.key⟩, Or.inl rfl⟩ rfl rfl rfl)
  | error f =>
    cases f with
    | overflowed o => exact trivial
    | refused cause =>
      apply harmless_recordFailure cause
      intro failed hf
      obtain ⟨-, rfl⟩ := Payment.failVerification_eq_ok.1 hf
      exact stored ⟨⟨hu.refunded, hu.positive, hu.key⟩, Or.inr rfl⟩ rfl rfl rfl

theorem harmless_fetchApproved (paymentKey : String) : Harmless (fetchApproved paymentKey) := by
  refine ⟨trivial, ?_⟩
  intro answer
  cases answer with
  | error e => exact trivial
  | ok answer => exact (harmless_ofOutcome (checkApproved answer.status)).bind fun _ => trivial

/-- A registration does no harm: all that it ever saves are drafts. -/
theorem harmless_register (r : Registration) : Harmless (register r) := by
  refine ⟨trivial, ?_⟩
  intro existing
  cases existing with
  | some p => exact trivial
  | none =>
    refine ⟨trivial, ?_⟩
    intro known
    cases known with
    | true => exact trivial
    | false =>
      refine ⟨trivial, ?_⟩
      intro taken
      cases taken with
      | true => exact trivial
      | false => exact (harmless_fetchApproved _).bind (harmless_settleRegistration r)

/-! ## Deletions -/

/-- The deletion has looked for the payment. -/
def deleting (i : PaymentId) (deletedBy : String) : Option Payment → Procedure (Outcome Payment)
  | none => .done (Payments.refuse (.paymentNotFound i.text))
  | some p => .ask (.store (.delete p deletedBy)) .done

theorem run_delete (i : PaymentId) (deletedBy : String) :
    (delete i.text deletedBy).run = .ask (.store (.findById i)) (deleting i deletedBy) := by
  unfold delete find
  rw [PaymentId.ofText_text]
  show Procedure.ask _ _ = _
  congr 1
  funext o
  cases o with
  | none => rfl
  | some p =>
    show Procedure.ask _ _ = Procedure.ask _ _
    congr 1

theorem run_delete_of_blank {paymentId : String} (deletedBy : String) {f : Failure}
    (h : PaymentId.ofText paymentId = .error f) :
    (delete paymentId deletedBy).run = .done (.error f) := by
  unfold delete find
  rw [h]
  rfl

/-! ## Refunds -/

theorem run_refund_of_blank {paymentId : String} (orderId reason : String) {f : Failure}
    (h : PaymentId.ofText paymentId = .error f) :
    (refund paymentId orderId reason).run = .done (.error f) := by
  unfold refund find
  rw [h]
  rfl

/-- The refund has tried to store that it begins. -/
def claimed (amount : Decimal) (reason : String) : Outcome Payment → Procedure (Outcome Payment)
  | .ok q => (carryOut q amount reason).run
  | .error f => .done (.error f)

/-- The refund stores that it begins. -/
def claiming (begun : Payment) (amount : Decimal) (reason : String) :
    Procedure (Outcome Payment) :=
  .ask (.store (.save begun)) (claimed amount reason)

/-- The refund has looked for the payment. -/
def found (i : PaymentId) (orderId reason : String) : Option Payment → Procedure (Outcome Payment)
  | none => .done (Payments.refuse (.paymentNotFound i.text))
  | some p =>
    match beginRefund p i.text orderId reason with
    | .ok (begun, amount) => claiming begun amount reason
    | .error f => .done (.error f)

open Payment in
/-- On the record of a payment whose refund has not begun, a refund begins with the whole amount, or
not at all. -/
theorem beginRefund_of_open {p : Payment} {i : PaymentId} {paymentId orderId reason : String}
    {x : Payment × Decimal} (hp : p.IsOpenRecord) (hi : p.id = some i) (hd : p.isDeleted = false)
    (h : beginRefund p paymentId orderId reason = .ok x) :
    p.IsVerifiedRecord i ∧ x = (p.begun reason, p.ledger.amount) := by
  unfold beginRefund at h
  split at h
  · cases h
  · obtain ⟨amount, ha, h⟩ := Except.bind_eq_ok.1 h
    rw [Ledger.refundable_of_zero hp.refunded hp.positive] at ha
    cases ha
    obtain ⟨begun, hb, h⟩ := Except.bind_eq_ok.1 h
    obtain ⟨hs, -, -, rfl⟩ := startRefund_eq_ok.1 hb
    cases h
    exact ⟨hp.verified hi hd hs, rfl⟩

theorem beginRefund_of_not_refundable {p : Payment} {paymentId orderId reason : String}
    {x : Payment × Decimal} (hp : p.status.isRefundable = false) :
    beginRefund p paymentId orderId reason ≠ .ok x := by
  intro h
  unfold beginRefund at h
  split at h
  · cases h
  · obtain ⟨amount, -, h⟩ := Except.bind_eq_ok.1 h
    obtain ⟨begun, hb, -⟩ := Except.bind_eq_ok.1 h
    rw [(Payment.startRefund_eq_ok.1 hb).1] at hp
    cases hp

theorem run_refund (i : PaymentId) (orderId reason : String) :
    (refund i.text orderId reason).run =
      .ask (.store (.findById i)) (found i orderId reason) := by
  unfold refund find
  rw [PaymentId.ofText_text]
  show Procedure.ask _ _ = _
  congr 1
  funext o
  cases o with
  | none => rfl
  | some p =>
    show (ofOutcome (beginRefund p i.text orderId reason) >>= fun x =>
        Attempt.save x.1 >>= fun q => carryOut q x.2 reason).run =
      match beginRefund p i.text orderId reason with
      | .ok (begun, amount) => claiming begun amount reason
      | .error f => .done (.error f)
    cases beginRefund p i.text orderId reason with
    | error f => rfl
    | ok x =>
      show Procedure.ask _ _ = Procedure.ask _ _
      congr 1
      funext o
      cases o <;> rfl

end Service

namespace Payment.Verdict

/-- What is announced of a refund of an amount. -/
def announcement (saved : Payment) (amount : Decimal) (reason : String) (now : Instant) :
    Verdict → Event
  | made _ _ => .refunded (RefundDone.of saved amount reason now)
  | failed cause => .refundFailed (RefundFailed.of saved amount cause.message now)

/-- What the caller is told. -/
def result (saved : Payment) : Verdict → Outcome Payment
  | made _ _ => .ok saved
  | failed cause => refuse (.refundProcessingFailed cause)

theorem paymentId_announcement {saved : Payment} {i : PaymentId} (h : saved.id = some i)
    (v : Verdict) (amount : Decimal) (reason : String) (now : Instant) :
    (v.announcement saved amount reason now).paymentId = i.text := by
  have ht : saved.idText = i.text := by
    rw [idText, h]
  cases v <;> exact ht

end Payment.Verdict

namespace Service

open Attempt Procedure
open Payment (Verdict)

variable (v : Verdict) (q : Payment) (reason : String)

/-- The refund tells what became of it, and ends. -/
def announcing (saved : Payment) (e : Event) : Procedure (Outcome Payment) :=
  .ask (.publish e) fun _ => .done (v.result saved)

/-- The refund looks at the clock to tell what became of it. -/
def dating (saved : Payment) (amount : Decimal) : Procedure (Outcome Payment) :=
  .ask .now fun t => announcing v saved (v.announcement saved amount reason t)

/-- The refund has tried to store the verdict on it. -/
def settled (amount : Decimal) : Outcome Payment → Procedure (Outcome Payment)
  | .ok saved => dating v reason saved amount
  | .error f => .done (.error f)

/-- The refund stores the verdict on it. -/
def settling : Procedure (Outcome Payment) :=
  .ask (.store (.save (v.enter q))) (settled v reason q.ledger.amount)

/-- The refund has got an answer from the gateway. -/
def answered (answer : Except GatewayError Gateway.CancelAnswer) : Procedure (Outcome Payment) :=
  match answer >>= refundId with
  | .ok id => .ask .now fun t => settling (.made id t) q reason
  | .error e => settling (.failed (.gateway e)) q reason

theorem run_conclude (refundId : String) (t : Instant) :
    (conclude ((Verdict.made refundId t).enter q) q.ledger.amount reason).run =
      settling (.made refundId t) q reason := by
  show Procedure.ask _ _ = Procedure.ask _ _
  congr 1
  funext o
  cases o <;> rfl

variable {q} in
theorem run_abandon {i : PaymentId} (hq : q.IsRefunding i) (cause : PaymentError) :
    (abandon q q.ledger.amount cause).run = settling (.failed cause) q reason := by
  unfold abandon
  rw [hq.failRefund cause]
  show Procedure.ask _ _ = Procedure.ask _ _
  congr 1
  funext o
  cases o <;> rfl

variable {q} in
/-- A refund whose beginning is stored goes to the gateway, whose answer decides on the verdict. -/
theorem run_carryOut {i : PaymentId} (hq : q.IsRefunding i) :
    ∃ key, q.reference.paymentKey = some key ∧
      (carryOut q q.ledger.amount reason).run =
        .ask (.cancel key (.full reason)) fun answer => answered q reason answer := by
  obtain ⟨key, hk⟩ := hq.key
  refine ⟨key, hk, ?_⟩
  -- the record is refunding, so neither verdict can fail to be entered
  rw [carryOut, run_lift_bind, execute, hk]
  show Procedure.ask _ _ = Procedure.ask _ _
  congr 1
  funext answer
  cases answer with
  | error e => exact run_abandon reason hq _
  | ok answer =>
    have ha : (Except.ok answer >>= refundId) = refundId answer := rfl
    rw [answered, ha]
    cases hid : refundId answer with
    | error e =>
      simp only [done_bind, Function.comp_apply, ExceptT.bindCont, hid]
      exact run_abandon reason hq _
    | ok id =>
      simp only [done_bind, Function.comp_apply, ExceptT.bindCont, hid]
      show Procedure.ask _ _ = Procedure.ask _ _
      congr 1
      funext t
      show Procedure.bind (done (q.completeRefund q.ledger.amount id t)) _ = _
      rw [hq.completeRefund id t]
      exact run_conclude q reason id t

end Service

end Payments
