import Payments.Proofs.Decimal.Exact
import Payments.Proofs.Ledger.Refunds
import Mathlib.Algebra.BigOperators.Group.List.Basic

/-!
# Payments.Proofs.Ledger.Exact -- refunds whose sums need no rounding

If the amount of a payment and each refund fit together into 96 bits, at the largest scale among all
of them, then no sum on the way is rounded or too long: a sum that is entered is at most the amount,
so with the next refund added it is at most the amount with that refund added. Hence the ledger
shows the exact sum after every step, answers every call by it, and does not depend on the order of
refunds that together do not exceed the amount (`Ledger.refunds_exact`).
-/

namespace Payments

/-- The largest scale among some amounts. -/
def Decimal.largestScale (ds : List Decimal) : Nat :=
  (ds.map Decimal.scale).foldr max 0

theorem Decimal.scale_le_largestScale {d : Decimal} {ds : List Decimal} (h : d ∈ ds) :
    d.scale ≤ Decimal.largestScale ds := by
  induction h with
  | head ds => exact Nat.le_max_left _ _
  | tail e h ih => exact Nat.le_trans ih (Nat.le_max_right _ _)

theorem Decimal.largestScale_le (ds : List Decimal) : Decimal.largestScale ds ≤ 28 := by
  induction ds with
  | nil => exact Nat.zero_le 28
  | cons d ds ih => exact Nat.max_le.2 ⟨d.scale_le, ih⟩

theorem Decimal.largestScale_perm {ds es : List Decimal} (h : ds.Perm es) :
    Decimal.largestScale ds = Decimal.largestScale es :=
  (h.map Decimal.scale).foldr_eq 0

theorem Decimal.total_perm {ds es : List Decimal} (h : ds.Perm es) :
    Decimal.total ds = Decimal.total es :=
  (h.map Decimal.units).sum_eq

theorem Decimal.total_nonneg {ds : List Decimal} (h : ∀ d ∈ ds, Decimal.zero < d) :
    0 ≤ Decimal.total ds := by
  induction ds with
  | nil => exact Int.le_refl 0
  | cons d ds ih =>
    have hd := h d List.mem_cons_self
    have hrest := ih fun e he => h e (List.mem_cons_of_mem d he)
    rw [Decimal.lt_iff_units, Decimal.units_zero] at hd
    rw [Decimal.total_cons]
    omega

namespace Ledger

variable {l : Ledger} {s : Nat}

/-! ## Sums that fit at a scale -/

/-- The sums of the ledger have mantissas of 96 bits at a scale. -/
structure FitsAt (l : Ledger) (s : Nat) : Prop where
  balanced : l.Balanced
  scale_le : s ≤ 28
  amount_scale : l.amount.scale ≤ s
  refunded_scale : l.refunded.scale ≤ s
  amount_lt : l.amount.mantissaAt s < twoTo 96

/-- With the refund added, the amount still has a mantissa of 96 bits at the scale. -/
structure Accommodates (l : Ledger) (s : Nat) (r : Decimal) : Prop where
  pos : Decimal.zero < r
  scale : r.scale ≤ s
  sum_lt : l.amount.mantissaAt s + r.mantissaAt s < twoTo 96

theorem FitsAt.refunded_mantissa (h : l.FitsAt s) :
    0 ≤ l.refunded.mantissaAt s ∧ l.refunded.mantissaAt s ≤ l.amount.mantissaAt s :=
  ⟨Decimal.mantissaAt_nonneg h.balanced.nonneg,
    (Decimal.mantissaAt_le_iff h.refunded_scale h.amount_scale h.scale_le).2 h.balanced.le⟩

/-- The sum is exact, as what was refunded before does not exceed the amount. -/
theorem FitsAt.add?_exact {r : Decimal} (h : l.FitsAt s) (hr : l.Accommodates s r) :
    ∃ sum, l.refunded.add? r = some sum ∧ sum.units = l.refunded.units + r.units ∧
      sum.scale ≤ s := by
  have hrefunded := h.refunded_mantissa
  have hnonneg : 0 ≤ r.mantissaAt s := Decimal.mantissaAt_nonneg (Int.le_of_lt hr.pos)
  have hlt := hr.sum_lt
  exact Decimal.add?_exact h.refunded_scale hr.scale h.scale_le (by omega)

/-- A refund is neither too long nor rounded, and the ledger goes on fitting. -/
theorem FitsAt.attempt {r : Decimal} (h : l.FitsAt s) (hr : l.Accommodates s r) :
    l.refund r ≠ .error (.overflowed .addition) ∧ l.isRounded r = false ∧
      (l.attempt r).FitsAt s := by
  obtain ⟨sum, hadd, hunits, hscale⟩ := h.add?_exact hr
  have hpos : ¬ r ≤ Decimal.zero := Decimal.not_le_zero_iff.2 hr.pos
  have hbalanced := h.balanced.attempt r
  by_cases hlt : l.amount < sum
  · have hrefund : l.refund r = refuse (.refundExceedsPayment l.amount l.refunded r) := by
      simp only [refund, if_neg hpos, hadd, if_pos hlt]
    have hattempt : l.attempt r = l := by
      rw [Ledger.attempt, hrefund]
      rfl
    refine ⟨by rw [hrefund]; exact nofun, by rw [isRounded, hrefund]; rfl, ?_⟩
    rw [hattempt]
    exact h
  · have hrefund : l.refund r = .ok { l with refunded := sum } :=
      refund_eq_ok.2 ⟨hpos, sum, hadd, hlt, rfl⟩
    have hattempt : l.attempt r = { l with refunded := sum } := by
      rw [Ledger.attempt, hrefund]
    refine ⟨by rw [hrefund]; exact nofun, by simp [isRounded, hrefund, hunits], ?_⟩
    rw [hattempt] at hbalanced ⊢
    exact
      { balanced := hbalanced
        scale_le := h.scale_le
        amount_scale := h.amount_scale
        refunded_scale := hscale
        amount_lt := h.amount_lt }

/-- Trying a refund does not change which refunds can be accommodated. -/
theorem Accommodates.attempt {r : Decimal} (h : l.Accommodates s r) (q : Decimal) :
    (l.attempt q).Accommodates s r where
  pos := h.pos
  scale := h.scale
  sum_lt := by
    rw [(l.attempt_frame q).1]
    exact h.sum_lt

theorem FitsAt.attemptAll {rs : List Decimal} (h : l.FitsAt s)
    (hrs : ∀ r ∈ rs, l.Accommodates s r) : l.roundings rs = 0 ∧ (l.attemptAll rs).FitsAt s := by
  induction rs generalizing l with
  | nil => exact ⟨rfl, h⟩
  | cons r rs ih =>
    obtain ⟨-, hexact, hfits⟩ := h.attempt (hrs r List.mem_cons_self)
    obtain ⟨hrest, hend⟩ :=
      ih hfits fun q hq => (hrs q (List.mem_cons_of_mem r hq)).attempt r
    refine ⟨?_, hend⟩
    rw [roundings, hexact, hrest]
    rfl

/-- After any of the refunds, the next one has the documented answer. -/
theorem FitsAt.documented {done : List Decimal} {r : Decimal} (h : l.FitsAt s)
    (hzero : l.refunded = Decimal.zero) (hdone : ∀ q ∈ done, l.Accommodates s q)
    (hr : l.Accommodates s r) :
    (l.attemptAll done).Documented (Decimal.total (l.accepted done)) r
      ((l.attemptAll done).refund r) := by
  obtain ⟨hexact, hfits⟩ := h.attemptAll hdone
  have hr' : (l.attemptAll done).Accommodates s r :=
    ⟨hr.pos, hr.scale, by rw [(l.attemptAll_frame done).1]; exact hr.sum_lt⟩
  obtain ⟨hlong, hrounded, -⟩ := hfits.attempt hr'
  have hsum := refunded_attemptAll hexact
  rw [hzero, Decimal.units_zero, Int.zero_add] at hsum
  rw [← hsum]
  exact hfits.balanced.documented hlong hrounded

/-- Refunds that together do not exceed what is left are all entered. -/
theorem FitsAt.accepted_eq {rs : List Decimal} (h : l.FitsAt s)
    (hrs : ∀ r ∈ rs, l.Accommodates s r)
    (htotal : l.refunded.units + Decimal.total rs ≤ l.amount.units) : l.accepted rs = rs := by
  induction rs generalizing l with
  | nil => rfl
  | cons r rs ih =>
    have hr := hrs r List.mem_cons_self
    have hrest : ∀ q ∈ rs, l.Accommodates s q := fun q hq => hrs q (List.mem_cons_of_mem r hq)
    obtain ⟨hlong, hexact, hfits⟩ := h.attempt hr
    have hpos : 0 ≤ Decimal.total rs := Decimal.total_nonneg fun q hq => (hrest q hq).pos
    rw [Decimal.total_cons] at htotal
    have hentry : l.entry r = [r] := by
      have hanswer := h.balanced.documented hlong hexact
      unfold entry
      generalize l.refund r = answer at hanswer
      cases hanswer with
      | notPositive hle => exact absurd hr.pos (Int.not_lt.2 hle)
      | entered => rfl
      | exceeding _ hlt => omega
    have hstep := refunded_attempt hexact
    rw [hentry] at hstep
    simp only [Decimal.total_cons, Decimal.total_nil] at hstep
    rw [accepted, hentry, ih hfits fun q hq => (hrest q hq).attempt r]
    · rfl
    · rw [(l.attempt_frame r).1]
      omega

/-! ## What the ledger shows -/

/-- The ledger shows that `given` units have been given back. -/
structure Shows (l : Ledger) (given : Int) : Prop where
  refunded : l.refunded.units = given
  refundable : ∃ left, l.refundable = .ok left ∧ left.units = l.amount.units - given
  fully : l.isFullyRefunded = true ↔ given = l.amount.units
  partially : l.isPartiallyRefunded = true ↔ 0 < given ∧ given < l.amount.units
  more : l.isRefundable = true ↔ given < l.amount.units

theorem FitsAt.shows (h : l.FitsAt s) : l.Shows l.refunded.units where
  refunded := rfl
  refundable := by
    have hrefunded := h.refunded_mantissa
    have hamount := h.amount_lt
    obtain ⟨left, hsub, hunits, -⟩ :=
      Decimal.sub?_exact h.amount_scale h.refunded_scale h.scale_le (by omega)
    exact ⟨left, by rw [Ledger.refundable, hsub], hunits⟩
  fully := by simp [isFullyRefunded, Decimal.equiv_iff_units]
  partially := by simp [isPartiallyRefunded, Decimal.lt_iff_units]
  more := by simp [isRefundable, Decimal.lt_iff_units]

/-! ## All refunds -/

/-- At the largest scale among them, the amount and its sum with any of the refunds have mantissas
of 96 bits. -/
structure Aligned (amount : Decimal) (rs : List Decimal) : Prop where
  amount_lt : amount.mantissaAt (Decimal.largestScale (amount :: rs)) < twoTo 96
  sum_lt : ∀ r ∈ rs,
    amount.mantissaAt (Decimal.largestScale (amount :: rs)) +
      r.mantissaAt (Decimal.largestScale (amount :: rs)) < twoTo 96

theorem Aligned.perm {amount : Decimal} {rs rs' : List Decimal} (h : Aligned amount rs)
    (hperm : rs'.Perm rs) : Aligned amount rs' := by
  have hscale : Decimal.largestScale (amount :: rs') = Decimal.largestScale (amount :: rs) :=
    Decimal.largestScale_perm (hperm.cons amount)
  constructor
  · rw [hscale]
    exact h.amount_lt
  · intro r hr
    rw [hscale]
    exact h.sum_lt r (hperm.mem_iff.1 hr)

theorem Aligned.fitsAt {amount : Decimal} {rs : List Decimal} (h : Aligned amount rs)
    (hl : ofAmount amount = .ok l) : l.FitsAt (Decimal.largestScale (amount :: rs)) := by
  obtain ⟨rfl, hzero, hbalanced⟩ := balanced_inCurrency hl
  exact
    { balanced := hbalanced
      scale_le := Decimal.largestScale_le _
      amount_scale := Decimal.scale_le_largestScale List.mem_cons_self
      refunded_scale := by rw [hzero]; exact Nat.zero_le _
      amount_lt := h.amount_lt }

theorem Aligned.accommodates {amount : Decimal} {rs : List Decimal} (h : Aligned amount rs)
    (hl : ofAmount amount = .ok l) (hrs : ∀ r ∈ rs, Decimal.zero < r) :
    ∀ r ∈ rs, l.Accommodates (Decimal.largestScale (amount :: rs)) r := by
  obtain ⟨rfl, -, -⟩ := balanced_inCurrency hl
  intro r hr
  exact ⟨hrs r hr, Decimal.scale_le_largestScale (List.mem_cons_of_mem _ hr), h.sum_lt r hr⟩

/-- Refunds that together do not exceed the amount are given back in full. -/
theorem Aligned.refunded_eq {amount : Decimal} {rs : List Decimal} (h : Aligned amount rs)
    (hl : ofAmount amount = .ok l) (hrs : ∀ r ∈ rs, Decimal.zero < r)
    (htotal : Decimal.total rs ≤ amount.units) :
    (l.attemptAll rs).refunded.units = Decimal.total rs := by
  have hfits := h.fitsAt hl
  have hroom := h.accommodates hl hrs
  obtain ⟨hamount, hzero, -⟩ := balanced_inCurrency hl
  have haccepted : l.accepted rs = rs := by
    apply hfits.accepted_eq hroom
    rwa [hzero, hamount, Decimal.units_zero, Int.zero_add]
  have hsum := refunded_attemptAll (hfits.attemptAll hroom).1
  rwa [haccepted, hzero, Decimal.units_zero, Int.zero_add] at hsum

/-- Where all refunds fit together with the amount, the ledger is exact. A ledger is opened for the
amount; whichever refund is next, it has the answer that the contract promises for the exact sum of
the refunds entered before it; after each step the ledger shows that sum; and refunds that together
do not exceed the amount leave the same ledger in whatever order they come. -/
theorem refunds_exact {amount : Decimal} {rs : List Decimal} (hpos : Decimal.zero < amount)
    (hrs : ∀ r ∈ rs, Decimal.zero < r) (haligned : Aligned amount rs) :
    ∃ l, ofAmount amount = .ok l ∧ l.amount = amount ∧ l.currency = defaultCurrency ∧
      (∀ done r rest, rs = done ++ r :: rest →
        ((∃ m, (l.attemptAll done).refund r = .ok m) ↔
            Decimal.total (l.accepted done) + r.units ≤ amount.units) ∧
          (amount.units < Decimal.total (l.accepted done) + r.units →
            (l.attemptAll done).refund r =
              refuse (.refundExceedsPayment amount (l.attemptAll done).refunded r))) ∧
      (∀ done rest, rs = done ++ rest →
        (l.attemptAll done).amount = amount ∧ (l.attemptAll done).currency = defaultCurrency ∧
          (l.attemptAll done).Shows (Decimal.total (l.accepted done))) ∧
      (Decimal.total rs ≤ amount.units → ∀ rs', rs'.Perm rs →
        (l.attemptAll rs').amount = (l.attemptAll rs).amount ∧
          (l.attemptAll rs').currency = (l.attemptAll rs).currency ∧
          (l.attemptAll rs').refunded ≈ (l.attemptAll rs).refunded) := by
  have hl := ofAmount_of_pos hpos
  generalize hledger : (⟨amount, Decimal.zero, defaultCurrency⟩ : Ledger) = l at hl
  have hamount : l.amount = amount := by rw [← hledger]
  have hcurrency : l.currency = defaultCurrency := by rw [← hledger]
  have hzero : l.refunded = Decimal.zero := by rw [← hledger]
  have hfits := haligned.fitsAt hl
  have hroom := haligned.accommodates hl hrs
  refine ⟨l, hl, hamount, hcurrency, ?calls, ?steps, ?orders⟩
  case calls =>
    intro done r rest hsplit
    have hdone : ∀ q ∈ done, q ∈ rs := fun q hq => hsplit ▸ List.mem_append_left _ hq
    have hr : r ∈ rs := hsplit ▸ List.mem_append_right done List.mem_cons_self
    have hanswer := hfits.documented hzero (fun q hq => hroom q (hdone q hq)) (hroom r hr)
    have hframe := (l.attemptAll_frame done).1.trans hamount
    generalize (l.attemptAll done).refund r = answer at *
    cases hanswer with
    | notPositive hle => exact absurd (hrs r hr) (Int.not_lt.2 hle)
    | entered _ hle =>
      rw [hframe] at hle
      exact ⟨⟨fun _ => hle, fun _ => ⟨_, rfl⟩⟩, fun hlt => absurd hle (Int.not_le.2 hlt)⟩
    | exceeding _ hlt =>
      rw [hframe] at hlt ⊢
      exact ⟨⟨nofun, fun hle => absurd hle (Int.not_le.2 hlt)⟩, fun _ => rfl⟩
  case steps =>
    intro done rest hsplit
    have hdone : ∀ q ∈ done, q ∈ rs := fun q hq => hsplit ▸ List.mem_append_left _ hq
    obtain ⟨hexact, hend⟩ := hfits.attemptAll fun q hq => hroom q (hdone q hq)
    obtain ⟨hframe, hframe'⟩ := l.attemptAll_frame done
    have hsum := refunded_attemptAll hexact
    rw [hzero, Decimal.units_zero, Int.zero_add] at hsum
    refine ⟨hframe.trans hamount, hframe'.trans hcurrency, ?_⟩
    rw [← hsum]
    exact hend.shows
  case orders =>
    intro htotal rs' hperm
    obtain ⟨hframe, hframe'⟩ := l.attemptAll_frame rs
    obtain ⟨hpermuted, hpermuted'⟩ := l.attemptAll_frame rs'
    refine ⟨hpermuted.trans hframe.symm, hpermuted'.trans hframe'.symm, ?_⟩
    have htotal' : Decimal.total rs' = Decimal.total rs := Decimal.total_perm hperm
    have hrs' : ∀ r ∈ rs', Decimal.zero < r := fun r hr => hrs r (hperm.mem_iff.1 hr)
    rw [Decimal.equiv_iff_units, haligned.refunded_eq hl hrs htotal,
      (haligned.perm hperm).refunded_eq hl hrs' (htotal' ▸ htotal), htotal']

/-- Refunds at several scales: of 100.00, after 40 and 0.125 another 70 is too much, and 59.875 is
all that is left. -/
theorem refunds_exact_mixed_scales :
    let amount : Decimal := ⟨false, 10000, 2, by decide, by decide⟩
    let forty : Decimal := ⟨false, 40, 0, by decide, by decide⟩
    let eighth : Decimal := ⟨false, 125, 3, by decide, by decide⟩
    let seventy : Decimal := ⟨false, 70, 0, by decide, by decide⟩
    let left : Decimal := ⟨false, 59875, 3, by decide, by decide⟩
    let refunds := [forty, eighth, seventy, left]
    Decimal.zero < amount ∧ (∀ r ∈ refunds, Decimal.zero < r) ∧ Aligned amount refunds ∧
      ∃ l, ofAmount amount = .ok l ∧
        (l.attemptAll [forty, eighth]).refund seventy =
          refuse (.refundExceedsPayment amount (l.attemptAll [forty, eighth]).refunded seventy) ∧
        l.accepted refunds = [forty, eighth, left] ∧
        (l.attemptAll refunds).isFullyRefunded = true := by
  intro amount forty eighth seventy left refunds
  have hpos : Decimal.zero < amount := by decide
  have hrs : ∀ r ∈ refunds, Decimal.zero < r := by decide
  have haligned : Aligned amount refunds := ⟨by decide, by decide⟩
  obtain ⟨l, hl, -, -, hcalls, hsteps, -⟩ := refunds_exact hpos hrs haligned
  obtain rfl : (⟨amount, Decimal.zero, defaultCurrency⟩ : Ledger) = l := by
    rw [ofAmount_of_pos hpos] at hl
    exact Except.ok.inj hl
  refine ⟨hpos, hrs, haligned, _, hl, ?_, by decide, ?_⟩
  · exact (hcalls [forty, eighth] seventy [left] rfl).2 (by decide)
  · exact (hsteps refunds [] rfl).2.2.fully.2 (by decide)

end Ledger

end Payments
