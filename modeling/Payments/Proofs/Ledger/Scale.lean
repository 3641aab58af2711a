import Payments.Proofs.Decimal.Scale
import Payments.Proofs.Ledger.Refunds

/-!
# Payments.Proofs.Ledger.Scale -- ledgers do not depend on scales

Two runs are compared that are given the same numbers, written at different scales. Their results
are not equal, because scales are kept and shown, but they *agree*: both are refused for the same
reason, or both overflow in the same calculation, or both give results that say the same
(`Outcome.Agree`). For ledgers, saying the same is `Ledger.Alike`: it is kept by every refund,
entered or not (`Ledger.Alike.attemptAll`), and every question to the ledger has one answer for both
(`Ledger.Indistinguishable`).
-/

namespace Payments

/-! ## Results that agree -/

/-- Two reasons for a refusal that are one, but for how amounts are written. -/
inductive PaymentError.Alike : PaymentError → PaymentError → Prop where
  | same (e : PaymentError) : Alike e e
  | invalidAmount (detail detail' : String) : Alike (.invalidAmount detail) (.invalidAmount detail')
  | invalidRefundAmount (detail detail' : String) :
    Alike (.invalidRefundAmount detail) (.invalidRefundAmount detail')
  | refundExceedsPayment {amount amount' refunded refunded' requested requested' : Decimal}
      (hamount : amount ≈ amount') (hrefunded : refunded ≈ refunded')
      (hrequested : requested ≈ requested') :
    Alike (.refundExceedsPayment amount refunded requested)
      (.refundExceedsPayment amount' refunded' requested')
  | refundAmountExceedsPayment {requested requested' refundable refundable' : Decimal}
      (hrequested : requested ≈ requested') (hrefundable : refundable ≈ refundable') :
    Alike (.refundAmountExceedsPayment requested refundable)
      (.refundAmountExceedsPayment requested' refundable')
  | amountMismatch {actual actual' expected expected' : Decimal} (hactual : actual ≈ actual')
      (hexpected : expected ≈ expected') :
    Alike (.amountMismatch actual expected) (.amountMismatch actual' expected')

/-- Two results that say the same, or two failures for one reason. -/
inductive Outcome.Agree {α : Type} (R : α → α → Prop) : Outcome α → Outcome α → Prop where
  | ok {a b : α} (h : R a b) : Agree R (.ok a) (.ok b)
  | refused {e e' : PaymentError} (h : e.Alike e') :
    Agree R (.error (.refused e)) (.error (.refused e'))
  | overflowed (o : Overflow) : Agree R (.error (.overflowed o)) (.error (.overflowed o))

namespace Outcome

variable {α β : Type} {R : α → α → Prop} {S : β → β → Prop}

theorem Agree.of_eq {x : Outcome α} (hR : ∀ a, R a a) : Agree R x x := by
  cases x with
  | ok a => exact .ok (hR a)
  | error f =>
    cases f with
    | refused e => exact .refused (.same e)
    | overflowed o => exact .overflowed o

/-- What goes on from results that agree, and itself agrees, has results that agree. -/
theorem Agree.bind {x y : Outcome α} {f g : α → Outcome β} (h : Agree R x y)
    (hfg : ∀ a b, R a b → Agree S (f a) (g b)) : Agree S (x >>= f) (y >>= g) := by
  cases h with
  | ok h => exact hfg _ _ h
  | refused h => exact .refused h
  | overflowed o => exact .overflowed o

end Outcome

/-! ## Ledgers -/

namespace Ledger

/-- The ledgers say the same: amounts that are equal numbers, and one currency. -/
structure Alike (l m : Ledger) : Prop where
  amount : l.amount ≈ m.amount
  refunded : l.refunded ≈ m.refunded
  currency : l.currency = m.currency

variable {l m : Ledger} {r r' : Decimal}

theorem agree_inCurrency {amount amount' : Decimal} (h : amount ≈ amount') (currency : String) :
    Outcome.Agree Alike (inCurrency amount currency) (inCurrency amount' currency) := by
  have hcongr := Decimal.le_congr h (rfl : Decimal.zero.units = Decimal.zero.units)
  unfold inCurrency
  by_cases hle : amount ≤ Decimal.zero
  · rw [if_pos hle, if_pos (hcongr.1 hle)]
    exact .refused (.invalidAmount _ _)
  · rw [if_neg hle, if_neg (mt hcongr.2 hle)]
    exact .ok ⟨h, rfl, rfl⟩

/-- A refund has one answer in both ledgers, and leaves ledgers that say the same. -/
theorem Alike.refund (h : l.Alike m) (hr : r ≈ r') :
    Outcome.Agree Alike (l.refund r) (m.refund r') := by
  have hcongr := Decimal.le_congr hr (rfl : Decimal.zero.units = Decimal.zero.units)
  have hsum := Decimal.map_units_add?_congr h.refunded hr
  unfold Ledger.refund
  by_cases hle : r ≤ Decimal.zero
  · rw [if_pos hle, if_pos (hcongr.1 hle)]
    exact .refused (.invalidRefundAmount _ _)
  · rw [if_neg hle, if_neg (mt hcongr.2 hle)]
    -- the sums are equal numbers, or there is none in both ledgers
    cases hl : l.refunded.add? r with
    | none =>
      rw [hl, Option.map_none, eq_comm, Option.map_eq_none_iff] at hsum
      rw [hsum]
      exact .overflowed .addition
    | some total =>
      rw [hl, Option.map_some, eq_comm, Option.map_eq_some_iff] at hsum
      obtain ⟨total', hm, htotal⟩ := hsum
      rw [hm]
      have hlt := Decimal.lt_congr h.amount htotal.symm
      by_cases hexceeds : l.amount < total
      · simp only [if_pos hexceeds, if_pos (hlt.1 hexceeds)]
        exact .refused (.refundExceedsPayment h.amount h.refunded hr)
      · simp only [if_neg hexceeds, if_neg (mt hlt.2 hexceeds)]
        exact .ok ⟨h.amount, htotal.symm, h.currency⟩

theorem Alike.refundable (h : l.Alike m) :
    Outcome.Agree (fun a b => a ≈ b) l.refundable m.refundable := by
  have hdiff := Decimal.map_units_sub?_congr h.amount h.refunded
  unfold Ledger.refundable
  cases hl : l.amount.sub? l.refunded with
  | none =>
    rw [hl, Option.map_none, eq_comm, Option.map_eq_none_iff] at hdiff
    rw [hdiff]
    exact .overflowed .subtraction
  | some left =>
    rw [hl, Option.map_some, eq_comm, Option.map_eq_some_iff] at hdiff
    obtain ⟨left', hm, hleft⟩ := hdiff
    rw [hm]
    exact .ok hleft.symm

/-- No question to the ledgers, and no refund of one number, tells them apart. -/
structure Indistinguishable (l m : Ledger) : Prop where
  alike : l.Alike m
  refund : ∀ r r', r ≈ r' → Outcome.Agree Alike (l.refund r) (m.refund r')
  refundable : Outcome.Agree (fun a b => a ≈ b) l.refundable m.refundable
  isFor : ∀ a a', a ≈ a' → l.isFor a = m.isFor a'
  isFullyRefunded : l.isFullyRefunded = m.isFullyRefunded
  isPartiallyRefunded : l.isPartiallyRefunded = m.isPartiallyRefunded
  isRefundable : l.isRefundable = m.isRefundable

theorem Alike.indistinguishable (h : l.Alike m) : l.Indistinguishable m where
  alike := h
  refund := fun _ _ hr => h.refund hr
  refundable := h.refundable
  isFor := fun _ _ ha => decide_eq_decide.2 (Decimal.equiv_congr h.amount ha)
  isFullyRefunded := decide_eq_decide.2 (Decimal.equiv_congr h.refunded h.amount)
  isPartiallyRefunded := decide_eq_decide.2
    (and_congr (Decimal.lt_congr rfl h.refunded) (Decimal.lt_congr h.refunded h.amount))
  isRefundable := decide_eq_decide.2 (Decimal.lt_congr h.refunded h.amount)

theorem Alike.attempt (h : l.Alike m) (hr : r ≈ r') : (l.attempt r).Alike (m.attempt r') := by
  have hagree := h.refund hr
  unfold Ledger.attempt
  generalize l.refund r = x at *
  generalize m.refund r' = y at *
  cases hagree with
  | ok hafter => exact hafter
  | refused | overflowed => exact h

theorem Alike.attemptAll {rs rs' : List Decimal} (h : l.Alike m)
    (hrs : List.Forall₂ (fun r r' => r ≈ r') rs rs') :
    (l.attemptAll rs).Alike (m.attemptAll rs') := by
  induction hrs generalizing l m with
  | nil => exact h
  | cons hr _ ih => exact ih (h.attempt hr)

end Ledger

end Payments
