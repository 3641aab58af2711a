import Payments.Proofs.Service.Objections
import Payments.Proofs.Traffic.Alone
import Payments.Proofs.Traffic.Keys

/-!
# Payments.Proofs.Traffic.RegistrationAlone -- a registration that runs alone, from end to end

What a registration comes to when it runs alone is told without a look at the service
(`registration_alone`). The records of the store may settle it before the gateway is asked
(`Store.recordedAnswer`). If they do not, the gateway is asked once, and its answer is judged by the
three lists of objections; only the last of them leaves a trace in the store, the record of a failed
verification, and if there is no objection at all, the verified payment is stored and returned
(`Solo.Registers`).

Since the keys of the payment were found free and nobody else writes, storing it cannot fail.
-/

namespace Payments

open Service

/-! ## What the records say -/

namespace Store

variable {s : Store}

/-- What the records make of a registration before the gateway is asked, if anything. A payment
with its gateway payment that has not been deleted is the result; one that has been deleted forbids
the registration, and so does any payment of its order. -/
def recordedAnswer (s : Store) (r : Registration) : Option (Outcome Payment) :=
  let known := fun p : Payment => p.reference.paymentId == r.gatewayPaymentId
  match s.records.values.find? fun p => known p && !p.isDeleted with
  | some live => some (.ok live)
  | none =>
    if s.records.values.any known then
      some (refuse (.duplicateGatewayPayment r.gatewayPaymentId))
    else if s.records.values.any fun p => p.orderId == r.orderId then
      some (refuse (.duplicateOrder r.orderId))
    else none

theorem AnswersByScan.findByGatewayPayment_eq (h : s.AnswersByScan) (g : String) :
    s.findByGatewayPayment g =
      s.records.values.find? fun p => p.reference.paymentId == g && !p.isDeleted := by
  rw [← List.head?_filter, ← Option.head?_toList (o := s.findByGatewayPayment g),
    h.byGatewayPayment]
  rfl

/-- The answer of the records, as the store gives it. -/
theorem AnswersByScan.recordedAnswer_eq (h : s.AnswersByScan) (r : Registration) :
    s.recordedAnswer r =
      match s.findByGatewayPayment r.gatewayPaymentId with
      | some live => some (.ok live)
      | none =>
        if s.holdsGatewayPayment r.gatewayPaymentId then
          some (refuse (.duplicateGatewayPayment r.gatewayPaymentId))
        else if s.holdsOrder r.orderId then some (refuse (.duplicateOrder r.orderId))
        else none := by
  rw [h.findByGatewayPayment_eq, h.holdsGatewayPayment, h.holdsOrder]
  rfl

/-- The store with a payment added under an identity, its order and its gateway payment taken. -/
def withNew (s : Store) (i : PaymentId) (p : Payment) : Store :=
  (s.reserve p i).file i p

end Store

namespace Service

variable {s : Store} {r : Registration}

/-- Before the gateway is asked, a registration comes to what the records say; if they say nothing,
it goes on with the gateway's answer. -/
theorem alone_register (h : s.AnswersByScan) (r : Registration) (cues : Nat → Cue) :
    let x := (register r).run.alone cues s
    let y := (accounted r ((cues 3).lookup r.paymentKey)).alone (fun k => cues (k + 4)) s
    match s.recordedAnswer r with
    | some o => x.result = o ∧ x.store = s ∧ x.gatewayRequests = [] ∧ x.events = []
    | none =>
      x.result = y.result ∧ x.store = y.store ∧
        x.gatewayRequests = .lookup r.paymentKey :: y.gatewayRequests ∧ x.events = y.events := by
  intro x y
  have hx : x = _ := congrArg (Procedure.alone · cues s) (run_register r)
  rw [h.recordedAnswer_eq, hx]
  simp only [Procedure.alone_ask, Cue.answer, StoreRequest.serve]
  cases s.findByGatewayPayment r.gatewayPaymentId with
  | some live => exact ⟨rfl, rfl, rfl, rfl⟩
  | none =>
    simp only [looked, Procedure.alone_ask, Cue.answer, StoreRequest.serve]
    cases s.holdsGatewayPayment r.gatewayPaymentId with
    | true => exact ⟨rfl, rfl, rfl, rfl⟩
    | false =>
      simp only [checkedGatewayPayment, Procedure.alone_ask, Cue.answer, StoreRequest.serve]
      cases s.holdsOrder r.orderId <;> exact ⟨rfl, rfl, rfl, rfl⟩

end Service

/-! ## After the gateway's answer -/

/-- What the gateway's answer makes of a registration that has found its keys free in the store `s`.
After the answer the registration looks at the clock three times, to date the payment, to check the
approval and to date the verification; the fourth cue is that of the write. -/
def Solo.Registers (x : Solo (Outcome Payment)) (s : Store) (r : Registration)
    (cues : Nat → Cue) : Except GatewayError Gateway.PaymentAnswer → Prop
  | .error e => x.result = refuse (.gatewayUnavailable e) ∧ x.store = s
  | .ok account =>
    match account.status.refusal, r.defect account with
    | some e, _ | none, some e => x.result = refuse e ∧ x.store = s
    | none, none =>
      ∃ i, s.record? i = none ∧
        match r.objection account (cues 1).now with
        | some e =>
          x.result = refuse e ∧
            x.store = s.withNew i ((r.turnedDown account (cues 0).now e).inserted i (cues 3).now)
        | none =>
          let p := (r.verified account (cues 0).now (cues 2).now).inserted i (cues 3).now
          x.result = .ok p ∧ x.store = s.withNew i p

theorem Solo.Registers.congr {x y : Solo (Outcome Payment)} {s : Store} {r : Registration}
    {cues : Nat → Cue} {answer : Except GatewayError Gateway.PaymentAnswer}
    (h : y.Registers s r cues answer) (hresult : x.result = y.result)
    (hstore : x.store = y.store) : x.Registers s r cues answer := by
  unfold Registers
  rw [hresult, hstore]
  exact h

namespace Service

variable {s : Store} {r : Registration}

/-- A new payment of the registration is stored under an identity that no record had. -/
theorem save_new {p : Payment} (hid : p.id = none) (hversion : p.version = 0)
    (hg : s.holdsGatewayPayment p.reference.paymentId = false)
    (ho : s.holdsOrder p.orderId = false) (fresh : PaymentId) (now : Instant) :
    s.save p fresh now = (.ok (p.inserted fresh now), s.withNew fresh (p.inserted fresh now)) := by
  rw [Store.save_of_no_id fresh now hid, Store.insert_of_free fresh now hversion hg ho]
  rfl

theorem run_recordFailure (r : Registration) (account : Gateway.PaymentAnswer)
    (createdAt : Instant) (cause : PaymentError) :
    (recordFailure (r.payment account createdAt) cause).run =
      .ask (.store (.save (r.turnedDown account createdAt cause))) fun
        | .error (.overflowed o) => .done (.error (.overflowed o))
        | _ => .done (Payments.refuse cause) := by
  show Procedure.ask _ _ = Procedure.ask _ _
  congr 1
  funext o
  cases o with
  | ok saved => rfl
  | error f => cases f <;> rfl

/-- Once the gateway has answered, the registration comes to what the objections say, and asks
nothing more of the gateway. -/
theorem registers_accounted (hg : s.holdsGatewayPayment r.gatewayPaymentId = false)
    (ho : s.holdsOrder r.orderId = false) (cues : Nat → Cue) {earlier : Instant}
    (hclock : (cues 1).now.hourBefore? = some earlier)
    (answer : Except GatewayError Gateway.PaymentAnswer) :
    let y := (accounted r answer).alone cues s
    y.Registers s r cues answer ∧ y.gatewayRequests = [] ∧ y.events = [] := by
  cases answer with
  | error e => exact ⟨⟨rfl, rfl⟩, rfl, rfl⟩
  | ok account =>
    unfold Solo.Registers
    simp only [accounted, checkApproved_eq]
    cases account.status.refusal with
    | some e => exact ⟨⟨rfl, rfl⟩, rfl, rfl⟩
    | none =>
      simp only [approved, Procedure.alone_ask, Cue.answer, draft_eq]
      cases r.defect account with
      | some e => exact ⟨⟨rfl, rfl⟩, rfl, rfl⟩
      | none =>
        simp only [drafted, Procedure.alone_ask, Cue.answer, assess_eq (cues 0).now hclock]
        have hnew := ((cues 3).supply s).2
        cases r.objection account (cues 1).now with
        | some e =>
          have hsave := save_new (p := r.turnedDown account (cues 0).now e) rfl rfl hg ho
            ((cues 3).supply s) (cues 3).now
          simp only [assessed, Payments.refuse, run_recordFailure, Procedure.alone_ask,
            Cue.answer, StoreRequest.serve, hsave]
          exact ⟨⟨_, hnew, rfl, rfl⟩, rfl, rfl⟩
        | none =>
          have hsave := save_new (p := r.verified account (cues 0).now (cues 2).now) rfl rfl hg ho
            ((cues 3).supply s) (cues 3).now
          simp only [assessed, Procedure.alone_ask, Cue.answer, StoreRequest.serve, hsave]
          exact ⟨⟨_, hnew, rfl, rfl⟩, rfl, rfl⟩

/-- If the records say nothing, the keys of the registration are free. -/
theorem free_of_recordedAnswer (h : s.AnswersByScan) (hnone : s.recordedAnswer r = none) :
    s.holdsGatewayPayment r.gatewayPaymentId = false ∧ s.holdsOrder r.orderId = false := by
  rw [h.recordedAnswer_eq] at hnone
  split at hnone
  · cases hnone
  · cases hg : s.holdsGatewayPayment r.gatewayPaymentId with
    | true =>
      rw [hg] at hnone
      cases hnone
    | false =>
      rw [hg] at hnone
      cases ho : s.holdsOrder r.orderId with
      | true =>
        rw [ho] at hnone
        cases hnone
      | false => exact ⟨rfl, rfl⟩

end Service

/-- A registration that runs alone comes to what the records say of its gateway payment and of its
order, and the gateway is not asked. If they say nothing, the gateway is asked once, and the first
objection to its answer decides: objections to the answer itself or to what the registration names
leave the store as it was, those to the amount or to the age of the approval are stored as a failed
verification, and without any the verified payment is stored and returned. Nothing is announced. The
clock is one that counts from 1970. -/
theorem registration_alone (moves : List Move) (r : Registration) (cues : Nat → Cue)
    (hclock : ∀ k, 1970 ≤ (cues k).now.date.year) :
    let s := (Traffic.after moves).store
    let x := (Service.register r).run.alone cues s
    x.events = [] ∧
      match s.recordedAnswer r with
      | some o => x.result = o ∧ x.store = s ∧ x.gatewayRequests = []
      | none =>
        x.gatewayRequests = [.lookup r.paymentKey] ∧
          x.Registers s r (fun k => cues (k + 4)) ((cues 3).lookup r.paymentKey) := by
  intro s x
  have hs : s.AnswersByScan := (Traffic.truthful_after moves).indexed.answersByScan
  have hx := Service.alone_register hs r cues
  cases hrecorded : s.recordedAnswer r with
  | some o =>
    rw [hrecorded] at hx
    obtain ⟨hresult, hstore, hgateway, hevents⟩ := hx
    exact ⟨hevents, hresult, hstore, hgateway⟩
  | none =>
    rw [hrecorded] at hx
    obtain ⟨hresult, hstore, hgateway, hevents⟩ := hx
    obtain ⟨hg, ho⟩ := Service.free_of_recordedAnswer hs hrecorded
    obtain ⟨earlier, hearlier⟩ := Instant.exists_hourBefore? (t := (cues 5).now)
      (Int.lt_of_lt_of_le (by decide) (hclock 5))
    obtain ⟨hregisters, hsilent, hquiet⟩ := Service.registers_accounted hg ho
      (fun k => cues (k + 4)) hearlier ((cues 3).lookup r.paymentKey)
    exact ⟨hevents.trans hquiet, hgateway.trans (congrArg _ hsilent),
      hregisters.congr hresult hstore⟩

/-- The sample payment is registered in an empty store. -/
theorem registration_alone_of_sample :
    let x := (Service.register Sample.registration).run.alone (fun _ => Sample.cue) ∅
    (∀ _ : Nat, 1970 ≤ Sample.cue.now.date.year) ∧
      ∃ i p, x.result = .ok p ∧ p.id = some i ∧ p.status = .verified ∧ p.version = 1 ∧
        x.store = (∅ : Store).withNew i p ∧
        x.gatewayRequests = [.lookup Sample.registration.paymentKey] := by
  intro x
  have hclock : ∀ _ : Nat, 1970 ≤ Sample.cue.now.date.year := fun _ => by decide
  obtain ⟨-, hgateway, i, -, hresult, hstore⟩ :=
    registration_alone [] Sample.registration (fun _ => Sample.cue) hclock
  exact ⟨hclock, i, _, hresult, rfl, rfl, rfl, hstore, hgateway⟩

end Payments
