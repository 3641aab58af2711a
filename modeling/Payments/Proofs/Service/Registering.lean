import Payments.Proofs.Service.Course
import Payments.Proofs.Service.Dialogue

/-!
# Payments.Proofs.Service.Registering -- the course of a registration

A registration goes through three stages. It is *admitted* if neither a look-up nor two checks find
its keys in the store; then the gateway is asked, and what comes of its account is *settled*; a
payment that is to be stored is then *inserted*, and if somebody else was faster with the same
gateway payment, the payment of the other is fetched.

Each stage has one lemma that lists every dialogue it can have, with what the registration has left
to do after it: `Admission`, `Settlement` and `Insertion`. All that is said about registrations
among other calls is read off these lists.
-/

namespace Payments

namespace Service

open Attempt Procedure

variable (r : Registration)

/-! ## What follows each answer -/

/-- A payment that was looked up after another registration was faster. -/
def fetched (gatewayPaymentId : String) : Option Payment → Procedure (Outcome Payment)
  | some winner => .done (.ok winner)
  | none => .done (Payments.refuse (.duplicateGatewayPayment gatewayPaymentId))

/-- The registration has tried to store the verified payment. -/
def inserted : Outcome Payment → Procedure (Outcome Payment)
  | .error (.refused (.duplicateGatewayPayment id)) =>
    .ask (.store (.findByGatewayPayment id)) (fetched id)
  | result => .done result

/-- The registration has assessed the payment `p`. -/
def assessed (p : Payment) : Outcome Payment → Procedure (Outcome Payment)
  | .ok verified => .ask (.store (.save verified)) inserted
  | .error (.refused cause) => (recordFailure p cause).run
  | .error (.overflowed o) => .done (.error (.overflowed o))

/-- The registration has tried to draft the payment. -/
def drafted : Outcome Payment → Procedure (Outcome Payment)
  | .ok p => .ask .now fun s => .ask .now fun t => assessed p (assess p r.expectedAmount s t)
  | .error f => .done (.error f)

/-- The registration has judged whether the gateway has approved the payment. -/
def approved (account : Gateway.PaymentAnswer) : Outcome Unit → Procedure (Outcome Payment)
  | .ok () => .ask .now fun t => drafted r (draft r account t)
  | .error f => .done (.error f)

/-- The registration has got the gateway's account of the payment. -/
def accounted : Except GatewayError Gateway.PaymentAnswer → Procedure (Outcome Payment)
  | .ok account => approved r account (checkApproved account.status)
  | .error e => .done (Payments.refuse (.gatewayUnavailable e))

/-- The registration has checked whether its order is taken. -/
def checkedOrder : Bool → Procedure (Outcome Payment)
  | true => .done (Payments.refuse (.duplicateOrder r.orderId))
  | false => .ask (.lookup r.paymentKey) (accounted r)

/-- The registration has checked whether its gateway payment is taken. -/
def checkedGatewayPayment : Bool → Procedure (Outcome Payment)
  | true => .done (Payments.refuse (.duplicateGatewayPayment r.gatewayPaymentId))
  | false => .ask (.store (.holdsOrder r.orderId)) (checkedOrder r)

/-- The registration has looked for its gateway payment. -/
def looked : Option Payment → Procedure (Outcome Payment)
  | some existing => .done (.ok existing)
  | none => .ask (.store (.holdsGatewayPayment r.gatewayPaymentId)) (checkedGatewayPayment r)

theorem run_insertVerified (p : Payment) :
    (insertVerified p).run = .ask (.store (.save p)) inserted := by
  show Procedure.ask _ _ = Procedure.ask _ _
  congr 1
  funext o
  cases o with
  | ok saved => rfl
  | error f =>
    cases f with
    | overflowed o => rfl
    | refused e =>
      cases e with
      | duplicateGatewayPayment id =>
        show Procedure.ask _ _ = Procedure.ask _ _
        congr 1
        funext winner
        cases winner <;> rfl
      | _ => rfl

theorem run_settleRegistration (account : Gateway.PaymentAnswer) :
    (settleRegistration r account).run = .ask .now fun t => drafted r (draft r account t) := by
  show Procedure.ask _ _ = Procedure.ask _ _
  congr 1
  funext t
  show (ofOutcome (draft r account t) >>= _).run = _
  cases draft r account t with
  | error f => rfl
  | ok p =>
    show Procedure.ask _ _ = Procedure.ask _ _
    congr 1
    funext s
    show Procedure.ask _ _ = Procedure.ask _ _
    congr 1
    funext t
    show (match assess p r.expectedAmount s t with
      | .ok verified => insertVerified verified
      | .error (.refused cause) => recordFailure p cause
      | .error (.overflowed o) => ofOutcome (.error (.overflowed o))).run = _
    cases assess p r.expectedAmount s t with
    | ok verified => exact run_insertVerified verified
    | error f => cases f <;> rfl

theorem run_register :
    (register r).run = .ask (.store (.findByGatewayPayment r.gatewayPaymentId)) (looked r) := by
  show Procedure.ask _ _ = Procedure.ask _ _
  congr 1
  funext existing
  cases existing with
  | some p => rfl
  | none =>
    show Procedure.ask _ _ = Procedure.ask _ _
    congr 1
    funext known
    cases known with
    | true => rfl
    | false =>
      show Procedure.ask _ _ = Procedure.ask _ _
      congr 1
      funext taken
      cases taken with
      | true => rfl
      | false =>
        show Procedure.ask _ _ = Procedure.ask _ _
        congr 1
        funext answer
        cases answer with
        | error e => rfl
        | ok account =>
          rw [accounted]
          cases h : checkApproved account.status with
          | error f =>
            simp only [done_bind, Function.comp_apply, ExceptT.bindCont, h]
            rfl
          | ok u =>
            simp only [done_bind, Function.comp_apply, ExceptT.bindCont, h]
            exact run_settleRegistration r account

/-! ## What a registration stores -/

/-- What the registration `r` may store: a draft with its keys. -/
structure Describes (p : Payment) : Prop where
  draft : p.IsDraft
  orderId : p.orderId = r.orderId
  gatewayPayment : p.reference.paymentId = r.gatewayPaymentId

/-- The payment is in verification, with the keys of the registration and what the gateway's account
says. -/
structure Portrays (account : Gateway.PaymentAnswer) (p : Payment) : Prop where
  orderId : p.orderId = r.orderId
  gatewayPayment : p.reference.paymentId = r.gatewayPaymentId
  status : p.status = .verifying
  amount : p.ledger.amount = account.totalAmount
  approvedAt : p.reference.approvedAt = account.approvedAt

variable {r}

theorem portrays_of_draft {account : Gateway.PaymentAnswer} {now : Instant} {p : Payment}
    (h : draft r account now = .ok p) : Portrays r account p := by
  obtain ⟨ledger, payer, payee, hl, rfl⟩ := exists_of_draft h
  exact ⟨rfl, rfl, rfl, (Ledger.ofAmount_eq_ok hl).2.1, rfl⟩

theorem describes_of_assess {account : Gateway.PaymentAnswer} {t₀ t₁ t₂ : Instant}
    {p v : Payment} (hd : draft r account t₀ = .ok p)
    (ha : assess p r.expectedAmount t₁ t₂ = .ok v) : Describes r v := by
  have hp := portrays_of_draft hd
  obtain ⟨hu, hi, hdel, hv⟩ := draft_eq_ok hd
  obtain ⟨-, -, ha⟩ := Except.bind_eq_ok.1 ha
  obtain ⟨-, -, rfl⟩ := Payment.verify_eq_ok.1 ha
  exact ⟨⟨⟨⟨hu.refunded, hu.positive, hu.key⟩, Or.inl rfl⟩, hi, hdel, hv⟩, hp.orderId,
    hp.gatewayPayment⟩

theorem describes_of_failVerification {account : Gateway.PaymentAnswer} {t₀ : Instant}
    {p failed : Payment} {reason : String} (hd : draft r account t₀ = .ok p)
    (hf : p.failVerification reason = .ok failed) : Describes r failed := by
  have hp := portrays_of_draft hd
  obtain ⟨hu, hi, hdel, hv⟩ := draft_eq_ok hd
  obtain ⟨-, rfl⟩ := Payment.failVerification_eq_ok.1 hf
  exact ⟨⟨⟨⟨hu.refunded, hu.positive, hu.key⟩, Or.inr rfl⟩, hi, hdel, hv⟩, hp.orderId,
    hp.gatewayPayment⟩

/-! ## The three stages -/

/-- The dialogues of a registration that inserts the payment `v`. -/
inductive Insertion (v : Payment) : List Reply → Procedure (Outcome Payment) → Prop where
  | saving : Insertion v [] (.ask (.store (.save v)) inserted)
  | stored (p : Payment) : Insertion v [⟨.store (.save v), .ok p⟩] (.done (.ok p))
  | fetching (id : String) :
    Insertion v [.lost v id] (.ask (.store (.findByGatewayPayment id)) (fetched id))
  | fetched (id : String) (winner : Payment) :
    Insertion v [.lost v id, ⟨.store (.findByGatewayPayment id), some winner⟩] (.done (.ok winner))
  | gone (id : String) :
    Insertion v [.lost v id, ⟨.store (.findByGatewayPayment id), none⟩]
      (.done (Payments.refuse (.duplicateGatewayPayment id)))
  | refused {f : Failure} (h : ∀ id, f ≠ .refused (.duplicateGatewayPayment id)) :
    Insertion v [⟨.store (.save v), .error f⟩] (.done (.error f))

theorem insertion_of_reaches {v : Payment} {d : List Reply} {rest : Procedure (Outcome Payment)}
    (h : (Procedure.ask (.store (.save v)) inserted).Reaches d rest) : Insertion v d rest := by
  cases h with
  | here => exact .saving
  | @there _ _ a d _ h =>
    cases a with
    | ok p =>
      obtain ⟨rfl, rfl⟩ := h.of_done
      exact .stored p
    | error f =>
      by_cases hf : ∃ id, f = .refused (.duplicateGatewayPayment id)
      · obtain ⟨id, rfl⟩ := hf
        cases h with
        | here => exact .fetching id
        | @there _ _ winner d _ h =>
          cases winner with
          | none =>
            obtain ⟨rfl, rfl⟩ := h.of_done
            exact .gone id
          | some w =>
            obtain ⟨rfl, rfl⟩ := h.of_done
            exact .fetched id w
      · have hrefused : inserted (.error f) = .done (.error f) := by
          unfold inserted
          split
          · next id heq =>
            cases heq
            exact absurd ⟨id, rfl⟩ hf
          · rfl
        rw [hrefused] at h
        obtain ⟨rfl, rfl⟩ := h.of_done
        exact .refused fun id hid => hf ⟨id, hid⟩

variable (r)

/-- The gateway has given its account, and the clock was asked for the time of the draft, of the
check of the approval and of the verification. -/
abbrev consulted (account : Gateway.PaymentAnswer) (times : List Instant) : List Reply :=
  ⟨.lookup r.paymentKey, .ok account⟩ :: times.map fun t => ⟨.now, t⟩

/-- The dialogues of a registration from its request to the gateway on. -/
inductive Settlement : List Reply → Procedure (Outcome Payment) → Prop where
  | consulting : Settlement [] (.ask (.lookup r.paymentKey) (accounted r))
  | unavailable (e : GatewayError) :
    Settlement [⟨.lookup r.paymentKey, .error e⟩] (.done (Payments.refuse (.gatewayUnavailable e)))
  | unapproved {account : Gateway.PaymentAnswer} {f : Failure}
    (h : checkApproved account.status = .error f) :
    Settlement (consulted r account []) (.done (.error f))
  | undrafted {account : Gateway.PaymentAnswer} {t₀ : Instant} {f : Failure}
    (h : draft r account t₀ = .error f) : Settlement (consulted r account [t₀]) (.done (.error f))
  | timing {account : Gateway.PaymentAnswer} (times : List Instant) (h : times.length < 3)
    (next : Instant → Procedure (Outcome Payment)) :
    Settlement (consulted r account times) (.ask .now next)
  | unassessed {account : Gateway.PaymentAnswer} {t₀ t₁ t₂ : Instant} {p : Payment} {o : Overflow}
    (hd : draft r account t₀ = .ok p)
    (ha : assess p r.expectedAmount t₁ t₂ = .error (.overflowed o)) :
    Settlement (consulted r account [t₀, t₁, t₂]) (.done (.error (.overflowed o)))
  | failed {account : Gateway.PaymentAnswer} {t₀ t₁ t₂ : Instant} {p : Payment}
    {cause : PaymentError} {d : List Reply} {rest : Procedure (Outcome Payment)}
    (hd : draft r account t₀ = .ok p)
    (ha : assess p r.expectedAmount t₁ t₂ = .error (.refused cause))
    (h : (recordFailure p cause).run.Reaches d rest) :
    Settlement (consulted r account [t₀, t₁, t₂] ++ d) rest
  | verified {account : Gateway.PaymentAnswer} {t₀ t₁ t₂ : Instant} {p v : Payment}
    {d : List Reply} {rest : Procedure (Outcome Payment)} (hd : draft r account t₀ = .ok p)
    (ha : assess p r.expectedAmount t₁ t₂ = .ok v) (h : Insertion v d rest) :
    Settlement (consulted r account [t₀, t₁, t₂] ++ d) rest

variable {r} {d : List Reply} {rest : Procedure (Outcome Payment)}

theorem settlement_of_assessed {account : Gateway.PaymentAnswer} {t₀ t₁ t₂ : Instant} {p : Payment}
    (hd : draft r account t₀ = .ok p)
    (h : (assessed p (assess p r.expectedAmount t₁ t₂)).Reaches d rest) :
    Settlement r (consulted r account [t₀, t₁, t₂] ++ d) rest := by
  cases ha : assess p r.expectedAmount t₁ t₂ with
  | ok v =>
    rw [ha] at h
    exact .verified hd ha (insertion_of_reaches h)
  | error f =>
    rw [ha] at h
    cases f with
    | refused cause => exact .failed hd ha h
    | overflowed o =>
      obtain ⟨rfl, rfl⟩ := h.of_done
      exact .unassessed hd ha

theorem settlement_of_drafted {account : Gateway.PaymentAnswer} {t₀ : Instant}
    (h : (drafted r (draft r account t₀)).Reaches d rest) :
    Settlement r (consulted r account [t₀] ++ d) rest := by
  cases hd : draft r account t₀ with
  | error f =>
    rw [hd] at h
    obtain ⟨rfl, rfl⟩ := h.of_done
    exact .undrafted hd
  | ok p =>
    rw [hd] at h
    cases h with
    | here => exact .timing [t₀] (by simp) _
    | @there _ _ t₁ _ _ h =>
      cases h with
      | here => exact .timing [t₀, t₁] (by simp) _
      | there h => exact settlement_of_assessed hd h

theorem settlement_of_reaches
    (h : (Procedure.ask (.lookup r.paymentKey) (accounted r)).Reaches d rest) :
    Settlement r d rest := by
  cases h with
  | here => exact .consulting
  | @there _ _ answer _ _ h =>
    cases answer with
    | error e =>
      obtain ⟨rfl, rfl⟩ := h.of_done
      exact .unavailable e
    | ok account =>
      rw [accounted] at h
      cases hc : checkApproved account.status with
      | error f =>
        rw [hc] at h
        obtain ⟨rfl, rfl⟩ := h.of_done
        exact .unapproved hc
      | ok u =>
        rw [hc] at h
        cases h with
        | here => exact .timing [] (by decide) _
        | there h => exact settlement_of_drafted h

variable (r)

/-- The registration has found none of its keys in the store. -/
abbrev keysFree : List Reply :=
  [⟨.store (.findByGatewayPayment r.gatewayPaymentId), none⟩,
    ⟨.store (.holdsGatewayPayment r.gatewayPaymentId), false⟩,
    ⟨.store (.holdsOrder r.orderId), false⟩]

/-- The dialogues of a registration. -/
inductive Admission : List Reply → Procedure (Outcome Payment) → Prop where
  | looking : Admission [] (.ask (.store (.findByGatewayPayment r.gatewayPaymentId)) (looked r))
  | found (p : Payment) :
    Admission [⟨.store (.findByGatewayPayment r.gatewayPaymentId), some p⟩] (.done (.ok p))
  | missed : Admission [⟨.store (.findByGatewayPayment r.gatewayPaymentId), none⟩]
      (.ask (.store (.holdsGatewayPayment r.gatewayPaymentId)) (checkedGatewayPayment r))
  | taken : Admission [⟨.store (.findByGatewayPayment r.gatewayPaymentId), none⟩,
        ⟨.store (.holdsGatewayPayment r.gatewayPaymentId), true⟩]
      (.done (Payments.refuse (.duplicateGatewayPayment r.gatewayPaymentId)))
  | free : Admission [⟨.store (.findByGatewayPayment r.gatewayPaymentId), none⟩,
        ⟨.store (.holdsGatewayPayment r.gatewayPaymentId), false⟩]
      (.ask (.store (.holdsOrder r.orderId)) (checkedOrder r))
  | orderTaken : Admission [⟨.store (.findByGatewayPayment r.gatewayPaymentId), none⟩,
        ⟨.store (.holdsGatewayPayment r.gatewayPaymentId), false⟩,
        ⟨.store (.holdsOrder r.orderId), true⟩]
      (.done (Payments.refuse (.duplicateOrder r.orderId)))
  | admitted {d : List Reply} {rest : Procedure (Outcome Payment)} (h : Settlement r d rest) :
    Admission (keysFree r ++ d) rest

variable {r}

theorem admission_of_reaches (h : (register r).run.Reaches d rest) : Admission r d rest := by
  rw [run_register] at h
  cases h with
  | here => exact .looking
  | @there _ _ existing _ _ h =>
    cases existing with
    | some p =>
      obtain ⟨rfl, rfl⟩ := h.of_done
      exact .found p
    | none =>
      cases h with
      | here => exact .missed
      | @there _ _ known _ _ h =>
        cases known with
        | true =>
          obtain ⟨rfl, rfl⟩ := h.of_done
          exact .taken
        | false =>
          cases h with
          | here => exact .free
          | @there _ _ taken _ _ h =>
            cases taken with
            | true =>
              obtain ⟨rfl, rfl⟩ := h.of_done
              exact .orderTaken
            | false => exact .admitted (settlement_of_reaches h)

/-! ## What can be read off the stages -/

/-- A registration whose verification failed tries to store that, and ends badly. -/
theorem recording_of_reaches {p : Payment} {cause : PaymentError}
    (h : (recordFailure p cause).run.Reaches d rest) :
    (∃ failed next, p.failVerification cause.message = .ok failed ∧ d = [] ∧
        rest = .ask (.store (.save failed)) next) ∨
      ∃ f, rest = .done (.error f) := by
  unfold recordFailure at h
  cases hf : p.failVerification cause.message with
  | error f =>
    rw [hf] at h
    obtain ⟨rfl, rfl⟩ := h.of_done
    exact Or.inr ⟨_, rfl⟩
  | ok failed =>
    rw [hf] at h
    cases h with
    | here => exact Or.inl ⟨failed, _, rfl, rfl, rfl⟩
    | @there _ _ a _ _ h =>
      cases a with
      | ok p =>
        obtain ⟨rfl, rfl⟩ := h.of_done
        exact Or.inr ⟨_, rfl⟩
      | error f =>
        cases f <;>
        · obtain ⟨rfl, rfl⟩ := h.of_done
          exact Or.inr ⟨_, rfl⟩

/-- A registration puts nine requests at most. -/
theorem length_lt_of_asks {q : Request} {next : q.Answer → Procedure (Outcome Payment)}
    (h : (register r).run.Reaches d (.ask q next)) : d.length < 9 := by
  cases admission_of_reaches h with
  | looking | missed | free => simp
  | @admitted d _ h =>
    -- three requests come before the gateway is asked
    show d.length + 3 < 9
    cases h with
    | consulting => simp
    | timing times ht => simp; omega
    | failed _ _ h =>
      rcases recording_of_reaches h with ⟨_, _, -, rfl, -⟩ | ⟨_, hdone⟩
      · simp
      · cases hdone
    | verified _ _ h =>
      cases h <;> simp

/-- Whatever a registration stores is a draft with its keys. -/
theorem describes_of_saves {q : Payment} {next : Outcome Payment → Procedure (Outcome Payment)}
    (h : (register r).run.Reaches d (.ask (.store (.save q)) next)) : Describes r q := by
  cases admission_of_reaches h with
  | admitted h =>
    cases h with
    | failed hd _ h =>
      rcases recording_of_reaches h with ⟨_, _, hf, -, hask⟩ | ⟨_, herror⟩
      · cases hask
        exact describes_of_failVerification hd hf
      · cases herror
    | verified hd ha h =>
      cases h with
      | saving => exact describes_of_assess hd ha

/-- What a registration that ends well gives back was found at once, or it was stored, or it was
found when the registration failed to store its own payment. -/
theorem sources_of_ok {p : Payment} (h : (register r).run.Reaches d (.done (.ok p))) :
    ⟨.store (.findByGatewayPayment r.gatewayPaymentId), some p⟩ ∈ d ∨
      ∃ v, Describes r v ∧ (⟨.store (.save v), .ok p⟩ ∈ d ∨
        ∃ id, Reply.lost v id ∈ d ∧ ⟨.store (.findByGatewayPayment id), some p⟩ ∈ d) := by
  cases admission_of_reaches h with
  | found => exact Or.inl (by simp)
  | admitted h =>
    cases h with
    | failed _ _ h =>
      rcases recording_of_reaches h with ⟨_, _, -, -, hask⟩ | ⟨_, herror⟩
      · cases hask
      · cases herror
    | verified hd ha h =>
      refine Or.inr ⟨_, describes_of_assess hd ha, ?_⟩
      cases h with
      | stored => exact Or.inl (by simp)
      | fetched id => exact Or.inr ⟨id, by simp, by simp⟩

/-- A registration that has asked the gateway was told before that its keys were free. -/
theorem free_of_forGateway (h : (register r).run.Reaches d rest) {x : Reply} (hx : x ∈ d)
    (hg : x.request.isForGateway = true) :
    ⟨.store (.holdsGatewayPayment r.gatewayPaymentId), false⟩ ∈ d ∧
      ⟨.store (.holdsOrder r.orderId), false⟩ ∈ d := by
  cases admission_of_reaches h with
  | admitted => exact ⟨by simp, by simp⟩
  | looking => cases hx
  | found | missed | taken | free | orderTaken =>
    simp only [List.mem_cons, List.not_mem_nil, or_false] at hx
    rcases hx with rfl | rfl | rfl <;> cases hg

end Service

end Payments
