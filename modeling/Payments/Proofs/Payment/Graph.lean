import Payments.Proofs.Ledger.Refunds
import Mathlib.Data.List.Chain

/-!
# Payments.Proofs.Payment.Graph -- the walk of a payment through the status graph

A step is accepted from the statuses that are documented for it (`Transition.sources`) if its own
checks pass too, those of the approval time or of the sums (`Transition.Passes`). What is said of a
single call is `Transition.Lawful`: when it is accepted, how it is refused, which arrow of the graph
it follows, and that only a completed refund touches the ledger, and never to take anything back.

A whole life is a sequence of calls, accepted or not. `Payment.course` lists the statuses that it
goes through, and `Payment.life_follows_graph` says of every life that each call is lawful, that the
course is a path of the graph, and that nothing happens after a final status.
-/

namespace Payments

namespace Status

theorem isRefundable_iff {s : Status} :
    s.isRefundable = true ↔ s ∈ [verified, partiallyRefunded] := by
  cases s <;> decide

theorem not_isFinal_iff {s : Status} :
    s.isFinal = false ↔ s ∈ [pending, verifying, verified, refunding, partiallyRefunded] := by
  cases s <;> decide

end Status

/-- An approval is fresh if it is less than an hour old. -/
theorem Gateway.Reference.isApprovalFresh_iff {r : Gateway.Reference} {now : Instant} :
    r.isApprovalFresh now = .ok true ↔
      ∃ earliest approvedAt, now.hourBefore? = some earliest ∧ r.approvedAt = some approvedAt ∧
        earliest < approvedAt := by
  unfold isApprovalFresh
  cases now.hourBefore? with
  | none => simp
  | some earliest => cases r.approvedAt <;> simp

theorem Ledger.refundable_eq_ok {l : Ledger} {left : Decimal} :
    l.refundable = .ok left ↔ l.amount.sub? l.refunded = some left := by
  unfold refundable
  cases l.amount.sub? l.refunded <;> simp

namespace Payment

variable {p q : Payment} {t : Transition}

/-! ## When a step is accepted -/

namespace Transition

/-- The statuses from which a step is documented. -/
def sources : Transition → List Status
  | startVerification => [.pending]
  | verify .. | failVerification _ => [.verifying]
  | startRefund .. => [.verified, .partiallyRefunded]
  | completeRefund .. | failRefund _ => [.refunding]
  | cancel _ => [.pending, .verifying, .verified, .refunding, .partiallyRefunded]

/-- The checks of a step apart from that of the status: the approval must be less than an hour old
when it is checked, a refund must be positive and not exceed what is left when it begins, and not
make the sum exceed the amount when it is completed. -/
def Passes (p : Payment) : Transition → Prop
  | verify checkedAt _ =>
    ∃ earliest approvedAt, checkedAt.hourBefore? = some earliest ∧
      p.reference.approvedAt = some approvedAt ∧ earliest < approvedAt
  | startRefund amount _ =>
    Decimal.zero < amount ∧
      ∃ left, p.ledger.amount.sub? p.ledger.refunded = some left ∧ amount ≤ left
  | completeRefund amount _ _ =>
    Decimal.zero < amount ∧
      ∃ sum, p.ledger.refunded.add? amount = some sum ∧ sum ≤ p.ledger.amount
  | startVerification | failVerification _ | failRefund _ | cancel _ => True

end Transition

/-- A step is accepted just from its documented statuses and if its own checks pass. -/
theorem Transition.accepted_iff (t : Transition) (p : Payment) :
    (∃ q, t.apply p = .ok q) ↔ p.status ∈ t.sources ∧ t.Passes p := by
  cases t with
  | startVerification => simp [apply, startVerification_eq_ok, sources, Passes]
  | verify checkedAt now =>
    simp [apply, verify_eq_ok, sources, Passes, Gateway.Reference.isApprovalFresh_iff]
  | failVerification reason => simp [apply, failVerification_eq_ok, sources, Passes]
  | startRefund amount reason =>
    simp only [apply, startRefund_eq_ok, sources, Passes, Status.isRefundable_iff,
      Decimal.not_le_zero_iff, Ledger.refundable_eq_ok]
    constructor
    · rintro ⟨q, hs, hpos, ⟨left, hleft, hle⟩, -⟩
      exact ⟨hs, hpos, left, hleft, Int.not_lt.1 hle⟩
    · rintro ⟨hs, hpos, left, hleft, hle⟩
      exact ⟨_, hs, hpos, ⟨left, hleft, Int.not_lt.2 hle⟩, rfl⟩
  | completeRefund amount refundId now =>
    simp only [apply, completeRefund_eq_ok, sources, Passes, Ledger.refund_eq_ok,
      Decimal.not_le_zero_iff, List.mem_singleton]
    constructor
    · rintro ⟨q, hs, ledger, ⟨hpos, sum, hadd, hle, -⟩, -⟩
      exact ⟨hs, hpos, sum, hadd, Int.not_lt.1 hle⟩
    · rintro ⟨hs, hpos, sum, hadd, hle⟩
      exact ⟨_, hs, _, ⟨hpos, sum, hadd, Int.not_lt.2 hle, rfl⟩, rfl⟩
  | failRefund reason => simp [apply, failRefund_eq_ok, sources, Passes]
  | cancel reason => simp only [apply, cancel_eq_ok, sources, Passes, Status.not_isFinal_iff]; simp

/-! ## What a step does -/

theorem requireStatus_bind_of_ne {required : Status} {operation : Operation}
    {f : Unit → Outcome Payment} (h : p.status ≠ required) :
    (p.requireStatus required operation >>= f) =
      refuse (.invalidStatus operation required p.status) := by
  rw [requireStatus, if_neg h]
  rfl

/-- From any other status a step is refused as one that the state does not allow. -/
theorem Transition.refused_of_not_source (h : p.status ∉ t.sources) :
    ∃ e, t.apply p = refuse e ∧ e.kind = .invalidState := by
  cases t with
  | startVerification =>
    exact ⟨_, requireStatus_bind_of_ne fun hs => h (List.mem_singleton.2 hs), rfl⟩
  | verify checkedAt now =>
    exact ⟨_, requireStatus_bind_of_ne fun hs => h (List.mem_singleton.2 hs), rfl⟩
  | failVerification reason =>
    exact ⟨_, requireStatus_bind_of_ne fun hs => h (List.mem_singleton.2 hs), rfl⟩
  | startRefund amount reason =>
    have hs : p.status.isRefundable = false := by
      rw [sources, ← Status.isRefundable_iff] at h
      simpa using h
    refine ⟨.refundNotAllowed p.status, ?_, rfl⟩
    rw [apply, Payment.startRefund, hs]
    rfl
  | completeRefund amount refundId now =>
    exact ⟨_, requireStatus_bind_of_ne fun hs => h (List.mem_singleton.2 hs), rfl⟩
  | failRefund reason =>
    exact ⟨_, requireStatus_bind_of_ne fun hs => h (List.mem_singleton.2 hs), rfl⟩
  | cancel reason =>
    have hs : p.status.isFinal = true := by
      rw [sources, ← Status.not_isFinal_iff] at h
      simpa using h
    exact ⟨.cannotCancel p.status, by rw [apply, Payment.cancel, if_pos hs], rfl⟩

/-- A step that is taken follows an arrow of the status graph. -/
theorem Transition.leads (h : t.apply p = .ok q) : p.status.Leads q.status := by
  cases t with
  | startVerification =>
    obtain ⟨hs, rfl⟩ := startVerification_eq_ok.1 h
    exact hs ▸ .startVerification
  | verify checkedAt now =>
    obtain ⟨hs, -, rfl⟩ := verify_eq_ok.1 h
    exact hs ▸ .verify
  | failVerification reason =>
    obtain ⟨hs, rfl⟩ := failVerification_eq_ok.1 h
    exact hs ▸ .failVerification
  | startRefund amount reason =>
    obtain ⟨hs, -, -, rfl⟩ := startRefund_eq_ok.1 h
    exact .startRefund hs
  | completeRefund amount refundId now =>
    obtain ⟨hs, ledger, -, rfl⟩ := completeRefund_eq_ok.1 h
    show p.status.Leads (if ledger.isFullyRefunded then .refunded else .partiallyRefunded)
    rw [hs]
    split
    · exact .refundAll
    · exact .refundPart
  | failRefund reason =>
    obtain ⟨hs, rfl⟩ := failRefund_eq_ok.1 h
    exact hs ▸ .failRefund
  | cancel reason =>
    obtain ⟨hs, rfl⟩ := cancel_eq_ok.1 h
    exact .cancel hs

/-- The ledger is touched by a completed refund only. -/
theorem Transition.ledger_cases (h : t.apply p = .ok q) :
    q.ledger = p.ledger ∨
      ∃ amount refundId now, t = completeRefund amount refundId now ∧
        p.ledger.refund amount = .ok q.ledger := by
  cases t with
  | startVerification =>
    obtain ⟨-, rfl⟩ := startVerification_eq_ok.1 h
    exact .inl rfl
  | verify checkedAt now =>
    obtain ⟨-, -, rfl⟩ := verify_eq_ok.1 h
    exact .inl rfl
  | failVerification reason =>
    obtain ⟨-, rfl⟩ := failVerification_eq_ok.1 h
    exact .inl rfl
  | startRefund amount reason =>
    obtain ⟨-, -, -, rfl⟩ := startRefund_eq_ok.1 h
    exact .inl rfl
  | completeRefund amount refundId now =>
    obtain ⟨-, ledger, hl, rfl⟩ := completeRefund_eq_ok.1 h
    exact .inr ⟨amount, refundId, now, rfl, hl⟩
  | failRefund reason =>
    obtain ⟨-, rfl⟩ := failRefund_eq_ok.1 h
    exact .inl rfl
  | cancel reason =>
    obtain ⟨-, rfl⟩ := cancel_eq_ok.1 h
    exact .inl rfl

/-! ## One call -/

theorem attempt_of_ok (h : t.apply p = .ok q) : p.attempt t = q := by
  rw [attempt, h]

theorem attempt_of_error {f : Failure} (h : t.apply p = .error f) : p.attempt t = p := by
  rw [attempt, h]

/-- What holds of a call: it is accepted as documented, a call that is not accepted changes nothing,
one that comes from a wrong status is refused for that, an accepted one follows an arrow of the
graph, and the sum refunded grows, if at all, by an accepted completion of a refund. -/
structure Transition.Lawful (t : Transition) (p : Payment) : Prop where
  accepted : (∃ q, t.apply p = .ok q) ↔ p.status ∈ t.sources ∧ t.Passes p
  unchanged : (∀ q, t.apply p ≠ .ok q) → p.attempt t = p
  invalidState : p.status ∉ t.sources → ∃ e, t.apply p = refuse e ∧ e.kind = .invalidState
  leads : ∀ q, t.apply p = .ok q → p.status.Leads q.status
  refunded_le : p.ledger.refunded ≤ (p.attempt t).ledger.refunded
  refunded_ne : (p.attempt t).ledger.refunded ≠ p.ledger.refunded →
    ∃ amount refundId now, t = completeRefund amount refundId now ∧
      t.apply p = .ok (p.attempt t)

theorem Transition.lawful (t : Transition) (h : p.ledger.Balanced) : t.Lawful p := by
  have haccepted := t.accepted_iff p
  cases hcall : t.apply p with
  | error f =>
    have hattempt := attempt_of_error hcall
    exact
      { accepted := haccepted
        unchanged := fun _ => hattempt
        invalidState := refused_of_not_source
        leads := fun q hq => absurd (hcall.symm.trans hq) nofun
        refunded_le := by rw [hattempt]; exact Int.le_refl _
        refunded_ne := fun hne => absurd (by rw [hattempt]) hne }
  | ok q =>
    have hattempt := attempt_of_ok hcall
    refine
      { accepted := haccepted
        unchanged := fun hno => absurd hcall (hno q)
        invalidState := refused_of_not_source
        leads := fun r hr => Except.ok.inj (hcall.symm.trans hr) ▸ Transition.leads hcall
        refunded_le := ?_
        refunded_ne := ?_ } <;> rw [hattempt]
    · obtain hsame | ⟨amount, refundId, now, -, hrefund⟩ := ledger_cases hcall
      · rw [hsame]
        exact Int.le_refl _
      · exact h.refunded_le hrefund
    · intro hne
      obtain hsame | ⟨amount, refundId, now, rfl, -⟩ := ledger_cases hcall
      · exact absurd (by rw [hsame]) hne
      · exact ⟨amount, refundId, now, rfl, hcall⟩

/-! ## A whole life -/

theorem balanced_create {orderId : String} {amount : Decimal} {reference : Gateway.Reference}
    {payer : Payer} {payee : Payee} {now : Instant}
    (h : create orderId amount reference payer payee now = .ok p) :
    p.status = .pending ∧ p.ledger.Balanced := by
  obtain ⟨ledger, hl, rfl⟩ := create_eq_ok h
  exact ⟨rfl, (Ledger.balanced_inCurrency hl).2.2⟩

theorem balanced_attempt (h : p.ledger.Balanced) (t : Transition) :
    (p.attempt t).ledger.Balanced := by
  unfold attempt
  split
  · next q hq =>
    obtain hsame | ⟨amount, refundId, now, -, hrefund⟩ := Transition.ledger_cases hq
    · exact hsame ▸ h
    · exact h.refund hrefund
  · exact h

theorem balanced_attemptAll (h : p.ledger.Balanced) (ts : List Transition) :
    (p.attemptAll ts).ledger.Balanced := by
  induction ts generalizing p with
  | nil => exact h
  | cons t ts ih => exact ih (balanced_attempt h t)

/-- The statuses that the payment goes through, one for each step that is taken. -/
def course (p : Payment) : List Transition → List Status
  | [] => []
  | t :: ts =>
    match t.apply p with
    | .ok q => q.status :: q.course ts
    | .error _ => p.course ts

/-- The course is a path of the status graph, and it ends in the status that the payment ends in. -/
theorem isChain_course (p : Payment) (ts : List Transition) :
    List.IsChain Status.Leads (p.status :: p.course ts) ∧
      (p.status :: p.course ts).getLast (List.cons_ne_nil _ _) = (p.attemptAll ts).status := by
  induction ts generalizing p with
  | nil => exact ⟨.singleton _, rfl⟩
  | cons t ts ih =>
    show _ ∧ _ = ((p.attempt t).attemptAll ts).status
    rw [course]
    cases hcall : t.apply p with
    | error f =>
      rw [attempt_of_error hcall]
      exact ih p
    | ok q =>
      obtain ⟨hchain, hlast⟩ := ih q
      rw [attempt_of_ok hcall]
      exact ⟨.cons_cons (Transition.leads hcall) hchain, by rw [← hlast]; rfl⟩

/-- No step is documented from a final status. -/
theorem Transition.not_mem_sources (t : Transition) {s : Status} (h : s.isFinal = true) :
    s ∉ t.sources := by
  have hsources : ∀ s ∈ t.sources, s.isFinal = false := by
    cases t <;> simp [sources, Status.isFinal]
  intro hs
  rw [hsources s hs] at h
  cases h

/-- Nothing happens after a final status. -/
theorem attemptAll_of_final (h : p.status.isFinal = true) (ts : List Transition) :
    p.attemptAll ts = p := by
  induction ts with
  | nil => rfl
  | cons t ts ih =>
    obtain ⟨e, he, -⟩ := Transition.refused_of_not_source (t.not_mem_sources h)
    show (p.attempt t).attemptAll ts = p
    rw [attempt_of_error he]
    exact ih

/-- Whatever steps are tried on a new payment, with any arguments and clock readings, and whichever
is next: the call is lawful; the statuses so far are a path of the status graph from `pending`; once
the status is final, every further call is refused and changes nothing; and nothing is rewritten of
where the payment comes from and for how much it is. -/
theorem life_follows_graph {orderId : String} {amount : Decimal} {reference : Gateway.Reference}
    {payer : Payer} {payee : Payee} {now : Instant} {p : Payment}
    (h : create orderId amount reference payer payee now = .ok p) (ts : List Transition) :
    (∀ t : Transition, t.Lawful (p.attemptAll ts)) ∧
      List.IsChain Status.Leads (.pending :: p.course ts) ∧
      (.pending :: p.course ts).getLast (List.cons_ne_nil _ _) = (p.attemptAll ts).status ∧
      ((p.attemptAll ts).status.isFinal = true → ∀ us,
        p.attemptAll (ts ++ us) = p.attemptAll ts ∧
          ∀ t : Transition, ∃ e, t.apply (p.attemptAll (ts ++ us)) = refuse e ∧
            e.kind = .invalidState) ∧
      p.SameOrigin (p.attemptAll ts) := by
  obtain ⟨hpending, hbalanced⟩ := balanced_create h
  have hcourse := p.isChain_course ts
  rw [hpending] at hcourse
  refine ⟨fun t => t.lawful (balanced_attemptAll hbalanced ts), hcourse.1, hcourse.2, ?_,
    p.sameOrigin_attemptAll ts⟩
  intro hfinal us
  have hrest : p.attemptAll (ts ++ us) = p.attemptAll ts := by
    rw [attemptAll, List.foldl_append]
    exact attemptAll_of_final hfinal us
  refine ⟨hrest, fun t => ?_⟩
  rw [hrest]
  exact Transition.refused_of_not_source (t.not_mem_sources hfinal)

/-- A payment of a hundred is given back in two parts, and a step that comes too late is refused on
the way. The course passes `refunding` twice, and then the life is over. -/
theorem life_follows_graph_of_two_refunds :
    let noon : Instant := ⟨⟨2024, 5, 1, by decide⟩, 43200, 0, by decide, by decide⟩
    let hundred : Decimal := { Decimal.zero with mantissa := 100, mantissa_lt := by decide }
    let forty : Decimal := { Decimal.zero with mantissa := 40, mantissa_lt := by decide }
    let sixty : Decimal := { Decimal.zero with mantissa := 60, mantissa_lt := by decide }
    let steps : List Transition :=
      [.startVerification, .verify noon noon, .startRefund forty "damaged",
        .completeRefund forty "refund-1" noon, .startRefund sixty "lost", .verify noon noon,
        .completeRefund sixty "refund-2" noon]
    ∃ p, create "order-1" hundred ⟨"TOSS", "pg-1", none, none, some noon, none, none⟩
        ⟨"company-1", "Payer", none, none⟩ ⟨"company-2", "Payee"⟩ noon = .ok p ∧
      p.course steps =
        [.verifying, .verified, .refunding, .partiallyRefunded, .refunding, .refunded] ∧
      List.IsChain Status.Leads (.pending :: p.course steps) ∧
      ∀ us, p.attemptAll (steps ++ us) = p.attemptAll steps := by
  intro noon hundred forty sixty steps
  have hp : create "order-1" hundred ⟨"TOSS", "pg-1", none, none, some noon, none, none⟩
      ⟨"company-1", "Payer", none, none⟩ ⟨"company-2", "Payee"⟩ noon = .ok _ := rfl
  obtain ⟨-, hchain, -, hfinal, -⟩ := life_follows_graph hp steps
  exact ⟨_, hp, by decide, hchain, fun us => (hfinal (by decide) us).1⟩

end Payment

end Payments
