import Payments.Proofs.Decimal.Nearest
import Payments.Proofs.Payment.Transition

/-!
# Payments.Proofs.Payment.Consistency -- the parts of a payment fit together

A payment keeps its status, its ledger, the outcome of its verification, two reasons and several
times in fields of their own, and the steps of its life write them piecemeal. `Payment.Consistent`
says how these fields belong together. It has four parts, each about a few fields and the status:
the sums of the ledger, what was noted about refunds, the verification, and the reasons.

Most steps move the status and leave the fields of a part alone. For these each part has a lemma
`move` that says which moves of the status it allows; for the steps that write a field of the part
there is a lemma about that step. `Payment.consistent_attemptAll` puts them together: whatever steps
are tried on a new payment, it stays consistent.

What is noted about refunds depends on the reference that the payment was created with. A reference
may bear the notes of a refund before there is a payment, and nobody takes them off then
(`Payment.refund_noted_before_any`).
-/

namespace Payments

/-! ## Kinds of statuses -/

namespace Status

/-- No verification has ended yet. -/
def isBeforeVerification : Status → Bool
  | .pending | .verifying => true
  | _ => false

/-- The verification has succeeded, and the payment has not been called off. -/
def isAfterSuccess : Status → Bool
  | .verified | .refunding | .partiallyRefunded | .refunded | .refundFailed => true
  | _ => false

/-- No refund has begun yet. -/
def isBeforeRefund : Status → Bool
  | .pending | .verifying | .verified | .verificationFailed => true
  | _ => false

/-- Something has failed for good. -/
def isFailure : Status → Bool
  | .verificationFailed | .refundFailed => true
  | _ => false

/-- A refund has begun, or the payment has been called off. -/
def hasRefundReason : Status → Bool
  | .refunding | .partiallyRefunded | .refunded | .refundFailed | .cancelled => true
  | _ => false

theorem isFailure_of_not_final {s : Status} (h : s.isFinal = false) : s.isFailure = false := by
  cases s <;> simp_all [isFinal, isFailure]

theorem verified_or_partiallyRefunded {s : Status} (h : s.isRefundable = true) :
    s = .verified ∨ s = .partiallyRefunded := by
  cases s <;> simp_all [isRefundable]

end Status

/-! ## The sums -/

namespace Ledger

/-- The sums of a ledger belong to a status. -/
structure Fits (l : Ledger) (s : Status) : Prop where
  amount_pos : Decimal.zero < l.amount
  refunded_nonneg : Decimal.zero ≤ l.refunded
  refunded_le : l.refunded ≤ l.amount
  everything : s = .refunded ↔ l.refunded ≈ l.amount
  part : s = .partiallyRefunded → Decimal.zero < l.refunded ∧ l.refunded < l.amount
  nothing : s.isBeforeRefund = true → l.refunded ≈ Decimal.zero

theorem fits_ofAmount {amount : Decimal} {l : Ledger} (h : ofAmount amount = .ok l) :
    l.Fits .pending := by
  obtain ⟨hpos, ha, hr⟩ := ofAmount_eq_ok h
  have hpos : Decimal.zero < l.amount := ha ▸ Decimal.not_le_zero_iff.1 hpos
  rw [Decimal.lt_iff_units, Decimal.units_zero] at hpos
  constructor
  · rwa [Decimal.lt_iff_units, Decimal.units_zero]
  · rw [hr]
    exact Int.le_refl _
  · rw [hr, Decimal.le_iff_units, Decimal.units_zero]
    exact Int.le_of_lt hpos
  · -- a positive amount is not refunded by nothing
    refine ⟨nofun, fun he => ?_⟩
    rw [hr, Decimal.equiv_iff_units, Decimal.units_zero] at he
    omega
  · exact nofun
  · exact fun _ => Decimal.equiv_iff_units.2 (congrArg Decimal.units hr)

variable {l m : Ledger} {s s' : Status}

/-- The status may move while the sums stay, if it does not say of them what was not so before. -/
theorem Fits.move (h : l.Fits s) (hs : s ≠ .refunded) (hfull : s' ≠ .refunded)
    (hpart : s' ≠ .partiallyRefunded)
    (hbefore : s'.isBeforeRefund = true → s.isBeforeRefund = true) : l.Fits s' where
  amount_pos := h.amount_pos
  refunded_nonneg := h.refunded_nonneg
  refunded_le := h.refunded_le
  everything := ⟨fun he => absurd he hfull, fun he => absurd (h.everything.2 he) hs⟩
  part := fun he => absurd he hpart
  nothing := fun hb => h.nothing (hbefore hb)

/-- A refund leaves something refunded, even if the sum had to be rounded. -/
theorem Fits.refunded_pos (h : l.Fits s) {amount : Decimal} (hm : l.refund amount = .ok m) :
    Decimal.zero < m.refunded := by
  obtain ⟨hpos, total, hadd, -, rfl⟩ := refund_eq_ok.1 hm
  exact Decimal.add?_pos h.refunded_nonneg (Decimal.not_le_zero_iff.1 hpos) hadd

/-- After a refund the status says whether everything was refunded. -/
theorem Fits.refund (h : l.Fits s) {amount : Decimal} (hm : l.refund amount = .ok m) :
    m.Fits (if m.isFullyRefunded then .refunded else .partiallyRefunded) := by
  have hrefunded : Decimal.zero < m.refunded := h.refunded_pos hm
  obtain ⟨-, total, -, hle, rfl⟩ := refund_eq_ok.1 hm
  have hle : total ≤ l.amount := Int.not_lt.1 hle
  have hfull : ({ l with refunded := total } : Ledger).isFullyRefunded =
      decide (total ≈ l.amount) := rfl
  rw [hfull]
  by_cases hall : total ≈ l.amount
  · rw [decide_eq_true hall, if_pos rfl]
    exact
      { amount_pos := h.amount_pos
        refunded_nonneg := Int.le_of_lt hrefunded
        refunded_le := hle
        everything := ⟨fun _ => hall, fun _ => rfl⟩
        part := nofun
        nothing := nofun }
  · rw [decide_eq_false hall, if_neg Bool.false_ne_true]
    have hlt : total < l.amount := by
      rw [Decimal.equiv_iff_units] at hall
      rw [Decimal.le_iff_units] at hle
      rw [Decimal.lt_iff_units]
      omega
    exact
      { amount_pos := h.amount_pos
        refunded_nonneg := Int.le_of_lt hrefunded
        refunded_le := hle
        everything := ⟨nofun, fun he => absurd he hall⟩
        part := fun _ => ⟨hrefunded, hlt⟩
        nothing := nofun }

end Ledger

/-! ## What was noted about refunds -/

/-- The time of the last refund is noted just when something has been refunded. Its id and its time
at the gateway are noted then too, and otherwise only if the reference that the payment was created
with bore them. Once something has been refunded the two times are one. -/
structure Gateway.Reference.Fits (r given : Gateway.Reference) (l : Ledger)
    (refundedAt : Option Instant) : Prop where
  time : refundedAt.isSome = true ↔ Decimal.zero < l.refunded
  gatewayId : r.refundId.isSome = true ↔ Decimal.zero < l.refunded ∨ given.refundId.isSome = true
  gatewayTime :
    r.refundedAt.isSome = true ↔ Decimal.zero < l.refunded ∨ given.refundedAt.isSome = true
  same : Decimal.zero < l.refunded → refundedAt = r.refundedAt

theorem Gateway.Reference.fits_addRefund (r given : Gateway.Reference) {l : Ledger}
    (h : Decimal.zero < l.refunded) (refundId : String) (now : Instant) :
    (r.addRefund refundId now).Fits given l (some now) where
  time := ⟨fun _ => h, fun _ => rfl⟩
  gatewayId := ⟨fun _ => Or.inl h, fun _ => rfl⟩
  gatewayTime := ⟨fun _ => Or.inl h, fun _ => rfl⟩
  same := fun _ => rfl

theorem Gateway.Reference.fits_self {given : Gateway.Reference} {l : Ledger}
    (hl : l.refunded = Decimal.zero) : given.Fits given l none := by
  have hzero : ¬ Decimal.zero < l.refunded := by
    rw [hl]
    exact Int.lt_irrefl _
  constructor <;> simp [hzero]

/-! ## The verification -/

namespace Verification

/-- The outcome of the verification, and the times of it and of the approval, belong to a status. -/
structure Fits (v : Verification) (s : Status) (verifiedAt approvedAt : Option Instant) :
    Prop where
  verifiedAt : v = .success ↔ verifiedAt.isSome = true
  success : s.isAfterSuccess = true → v = .success ∧ approvedAt.isSome = true
  failed : v = .failed ↔ s = .verificationFailed
  pending : s.isBeforeVerification = true → v = .pending

variable {v : Verification} {s s' : Status} {verifiedAt approvedAt : Option Instant}

/-- The status may move after the verification, or before its end. -/
theorem Fits.move (h : v.Fits s verifiedAt approvedAt) (hs : s ≠ .verificationFailed)
    (hs' : s' ≠ .verificationFailed)
    (hafter : s'.isAfterSuccess = true → s.isAfterSuccess = true)
    (hbefore : s'.isBeforeVerification = true → s.isBeforeVerification = true) :
    v.Fits s' verifiedAt approvedAt where
  verifiedAt := h.verifiedAt
  success := fun ha => h.success (hafter ha)
  failed := ⟨fun hv => absurd (h.failed.1 hv) hs, fun he => absurd he hs'⟩
  pending := fun hb => h.pending (hbefore hb)

/-- Verification succeeds only for an approval whose time is known. -/
theorem fits_success (h : approvedAt.isSome = true) (now : Instant) :
    Verification.success.Fits .verified (some now) approvedAt where
  verifiedAt := ⟨fun _ => rfl, fun _ => rfl⟩
  success := fun _ => ⟨rfl, h⟩
  failed := ⟨nofun, nofun⟩
  pending := nofun

theorem Fits.fail (h : v.Fits .verifying verifiedAt approvedAt) :
    Verification.failed.Fits .verificationFailed verifiedAt approvedAt where
  verifiedAt := by
    -- nobody has noted the time of a verification that had not ended
    have hnone : verifiedAt.isSome ≠ true := fun ht => by
      have hv := h.verifiedAt.2 ht
      rw [h.pending rfl] at hv
      cases hv
    exact ⟨nofun, fun ht => absurd ht hnone⟩
  success := nofun
  failed := ⟨fun _ => rfl, fun _ => rfl⟩
  pending := nofun

end Verification

theorem Gateway.Reference.approvedAt_of_fresh {r : Gateway.Reference} {now : Instant}
    (h : r.isApprovalFresh now = .ok true) : r.approvedAt.isSome = true := by
  unfold isApprovalFresh at h
  split at h
  · cases h
  · cases ha : r.approvedAt with
    | none =>
      rw [ha] at h
      cases h
    | some t => rfl

/-! ## The reasons -/

/-- A reason is given just in the statuses that have one. -/
structure Status.HasReasons (s : Status) (failureReason refundReason : Option String) : Prop where
  failure : failureReason.isSome = s.isFailure
  refund : refundReason.isSome = s.hasRefundReason

/-! ## All parts -/

namespace Payment

/-- The fields of a payment that was created with the reference `given` belong together. -/
structure Consistent (p : Payment) (given : Gateway.Reference) : Prop where
  sums : p.ledger.Fits p.status
  refunds : p.reference.Fits given p.ledger p.refundedAt
  verification : p.verification.Fits p.status p.verifiedAt p.reference.approvedAt
  reasons : p.status.HasReasons p.failureReason p.refundReason

variable {p q : Payment} {given : Gateway.Reference}

theorem consistent_create {orderId : String} {amount : Decimal} {payer : Payer} {payee : Payee}
    {now : Instant} (h : create orderId amount given payer payee now = .ok p) :
    p.Consistent given := by
  obtain ⟨ledger, hl, rfl⟩ := create_eq_ok h
  exact
    { sums := Ledger.fits_ofAmount hl
      refunds := Gateway.Reference.fits_self (Ledger.ofAmount_eq_ok hl).2.2
      verification := ⟨⟨nofun, nofun⟩, nofun, ⟨nofun, nofun⟩, fun _ => rfl⟩
      reasons := ⟨rfl, rfl⟩ }

/-- A step that is taken keeps the payment consistent. -/
theorem Consistent.step (h : p.Consistent given) {t : Transition} (ht : t.apply p = .ok q) :
    q.Consistent given := by
  obtain ⟨sums, refunds, verification, reasons⟩ := h
  cases t with
  | startVerification =>
    obtain ⟨hs, rfl⟩ := startVerification_eq_ok.1 ht
    rw [hs] at sums verification reasons
    exact
      { sums := sums.move nofun nofun nofun fun _ => rfl
        refunds
        verification := verification.move nofun nofun nofun fun _ => rfl
        reasons := ⟨reasons.failure, reasons.refund⟩ }
  | verify checkedAt now =>
    obtain ⟨hs, hfresh, rfl⟩ := verify_eq_ok.1 ht
    rw [hs] at sums reasons
    exact
      { sums := sums.move nofun nofun nofun fun _ => rfl
        refunds
        verification :=
          Verification.fits_success (Gateway.Reference.approvedAt_of_fresh hfresh) now
        reasons := ⟨reasons.failure, reasons.refund⟩ }
  | failVerification reason =>
    obtain ⟨hs, rfl⟩ := failVerification_eq_ok.1 ht
    rw [hs] at sums verification reasons
    exact
      { sums := sums.move nofun nofun nofun fun _ => rfl
        refunds
        verification := verification.fail
        reasons := ⟨rfl, reasons.refund⟩ }
  | startRefund amount reason =>
    obtain ⟨hs, -, -, rfl⟩ := startRefund_eq_ok.1 ht
    -- a refund starts from two statuses, and what matters is the same in both
    rcases Status.verified_or_partiallyRefunded hs with hs | hs <;>
      rw [hs] at sums verification reasons <;>
      exact
        { sums := sums.move nofun nofun nofun nofun
          refunds
          verification := verification.move nofun nofun (fun _ => rfl) nofun
          reasons := ⟨reasons.failure, rfl⟩ }
  | completeRefund amount refundId now =>
    obtain ⟨hs, ledger, hl, rfl⟩ := completeRefund_eq_ok.1 ht
    rw [hs] at sums verification reasons
    refine
      { sums := sums.refund hl
        refunds := p.reference.fits_addRefund given (sums.refunded_pos hl) refundId now
        verification := ?_
        reasons := ?_ }
    · show p.verification.Fits (if _ then _ else _) _ _
      split <;> exact verification.move nofun nofun (fun _ => rfl) nofun
    · show Status.HasReasons (if _ then _ else _) _ _
      split <;> exact ⟨reasons.failure, reasons.refund⟩
  | failRefund reason =>
    obtain ⟨hs, rfl⟩ := failRefund_eq_ok.1 ht
    rw [hs] at sums verification reasons
    exact
      { sums := sums.move nofun nofun nofun nofun
        refunds
        verification := verification.move nofun nofun (fun _ => rfl) nofun
        reasons := ⟨rfl, reasons.refund⟩ }
  | cancel reason =>
    obtain ⟨hs, rfl⟩ := cancel_eq_ok.1 ht
    have hopen {s : Status} (hfinal : s.isFinal = true) : p.status ≠ s := by
      rintro rfl
      rw [hs] at hfinal
      cases hfinal
    exact
      { sums := sums.move (hopen rfl) nofun nofun nofun
        refunds
        verification := verification.move (hopen rfl) nofun nofun nofun
        reasons := ⟨reasons.failure.trans (Status.isFailure_of_not_final hs), rfl⟩ }

theorem Consistent.attempt (h : p.Consistent given) (t : Transition) :
    (p.attempt t).Consistent given := by
  unfold Payment.attempt
  split
  · next q hq => exact h.step hq
  · exact h

theorem Consistent.attemptAll (h : p.Consistent given) (ts : List Transition) :
    (p.attemptAll ts).Consistent given := by
  induction ts generalizing p with
  | nil => exact h
  | cons t ts ih => exact ih (h.attempt t)

/-- Whatever steps are tried on a new payment, with whatever amounts, texts and clock readings, and
whether they are taken or refused, its fields belong together. If the reference that the payment is
created with bears no refund, as none does that `Gateway.Reference.create` makes, then what there is
to note about refunds is noted just when something has been refunded. -/
theorem consistent_attemptAll {orderId : String} {amount : Decimal}
    {reference : Gateway.Reference} {payer : Payer} {payee : Payee} {now : Instant} {p : Payment}
    (h : create orderId amount reference payer payee now = .ok p) (ts : List Transition) :
    (p.attemptAll ts).Consistent reference :=
  (consistent_create h).attemptAll ts

/-- A payment of a hundred is verified and forty are given back, then the rest cannot be given back.
Among the steps there are some that are refused. -/
def sampleSteps (hundred forty : Decimal) (noon : Instant) : List Transition :=
  [.startVerification, .verify noon noon, .startRefund forty "damaged",
    .completeRefund hundred.neg "refund-0" noon, .completeRefund forty "refund-1" noon,
    .startRefund hundred "lost", .startRefund forty "lost", .failRefund "account closed"]

theorem consistent_after_failed_refund :
    let noon : Instant := ⟨⟨2024, 5, 1, by decide⟩, 43200, 0, by decide, by decide⟩
    let hundred : Decimal := { Decimal.zero with mantissa := 100, mantissa_lt := by decide }
    let forty : Decimal := { Decimal.zero with mantissa := 40, mantissa_lt := by decide }
    let reference : Gateway.Reference := ⟨"TOSS", "pg-1", none, none, some noon, none, none⟩
    let steps := sampleSteps hundred forty noon
    Gateway.Reference.create "TOSS" "pg-1" none none (some noon) = .ok reference ∧
      ∃ p, create "order-1" hundred reference ⟨"company-1", "Payer", none, none⟩
          ⟨"company-2", "Payee"⟩ noon = .ok p ∧
        (p.attemptAll steps).status = .refundFailed ∧
        (p.attemptAll steps).ledger.refunded = forty ∧
        (p.attemptAll steps).Consistent reference := by
  intro noon hundred forty reference steps
  have hp : create "order-1" hundred reference ⟨"company-1", "Payer", none, none⟩
      ⟨"company-2", "Payee"⟩ noon = .ok _ := rfl
  exact ⟨rfl, _, hp, by decide, by decide, consistent_attemptAll hp steps⟩

/-- A payment may be created with a reference to which a refund was added before. The gateway's id
and time of that refund are noted from the beginning, although nothing has been refunded. -/
theorem refund_noted_before_any :
    let noon : Instant := ⟨⟨2024, 5, 1, by decide⟩, 43200, 0, by decide, by decide⟩
    let hundred : Decimal := { Decimal.zero with mantissa := 100, mantissa_lt := by decide }
    ∃ reference p, Gateway.Reference.create "TOSS" "pg-1" none none (some noon) = .ok reference ∧
      create "order-1" hundred (reference.addRefund "refund-0" noon)
          ⟨"company-1", "Payer", none, none⟩ ⟨"company-2", "Payee"⟩ noon = .ok p ∧
      ¬ Decimal.zero < (p.attemptAll []).ledger.refunded ∧
      (p.attemptAll []).refundedAt = none ∧
      (p.attemptAll []).reference.refundId = some "refund-0" ∧
      (p.attemptAll []).reference.refundedAt = some noon :=
  ⟨_, _, rfl, rfl, by decide, rfl, rfl, rfl⟩

end Payment

end Payments
