import Payments.Proofs.Decimal.Exact
import Mathlib.Tactic.Ring

/-!
# Payments.Proofs.Decimal.Nearest -- what a sum is when it is not exact

The sum of an amount that is not negative and a positive one is exact, or it is rounded, or there is
none because even a whole number of 96 bits is too small for it. `Decimal.Rounds u c` says that the
decimal `c` is the number of `u` units up to rounding: it is within half of its last place, and
places were given up only because the number is too long for one place more (`Decimal.TooLong`).

Rounding never crosses a decimal. A decimal has at most 96 bits of its own, so it lies on the grid
to which the sum is rounded, or the sum is out of its reach. Hence a sum that is at most some
decimal is rounded to at most that decimal (`Rounds.le_of_le`), and the same the other way round
(`Rounds.ge_of_ge`), so a sum that was rounded is positive still (`Decimal.add?_pos`). What it loses
is bounded by any decimal that it does not exceed (`Rounds.lost_le`).
-/

namespace Payments

/-- An even number is reached from one half below it on, because a half goes to the even one. -/
theorem le_halfEven_iff {m n d : Nat} (hd : 0 < d) (hm : m % 2 = 0) :
    m ≤ halfEven n d ↔ 2 * m * d ≤ 2 * n + d := by
  have hq : d * (n / d) + n % d = n := Nat.div_add_mod n d
  have hr : n % d < d := Nat.mod_lt n hd
  constructor
  · intro h
    have hnear := (halfEven_near hd (n := n)).1
    have hmul : m * d ≤ halfEven n d * d := Nat.mul_le_mul_right d h
    have he : 2 * m * d = 2 * (m * d) := Nat.mul_assoc 2 m d
    omega
  · intro h
    by_cases hlt : m ≤ n / d
    · exact Nat.le_trans hlt (div_le_halfEven n d)
    · -- the quotient is one below, and its rest is at least one half
      have hone : m = n / d + 1 := by
        by_contra hne
        have hle : n / d + 2 ≤ m := by omega
        have hmul : 2 * ((n / d + 2) * d) ≤ 2 * m * d := by
          rw [Nat.mul_assoc]
          exact Nat.mul_le_mul_left 2 (Nat.mul_le_mul_right d hle)
        have he : (n / d + 2) * d = d * (n / d) + 2 * d := by ring
        omega
      have he : 2 * m * d = 2 * (d * (n / d)) + 2 * d := by
        rw [hone]
        ring
      unfold halfEven
      dsimp only
      split
      · omega
      · split <;> omega

/-- A multiple of a unit that exceeds another by at most one half of the unit does not exceed it. -/
theorem mul_le_mul_of_near {m n unit : Int} (hunit : 0 < unit)
    (h : 2 * (m * unit) ≤ 2 * (n * unit) + unit) : m * unit ≤ n * unit := by
  have hscaled : (2 * m - 1) * unit ≤ 2 * n * unit := by
    have hl : (2 * m - 1) * unit = 2 * (m * unit) - unit := by ring
    have hr : 2 * n * unit = 2 * (n * unit) := by ring
    omega
  have hle : 2 * m - 1 ≤ 2 * n := Int.le_of_mul_le_mul_right hscaled hunit
  exact Int.mul_le_mul_of_nonneg_right (by omega) (Int.le_of_lt hunit)

theorem natCast_twoTo_96 : (twoTo 96 : Int) = 79228162514264337593543950336 := by decide

namespace Decimal

/-! ## Large and small decimals -/

theorem signed_le (d : Decimal) : d.signed ≤ twoTo 96 - 1 := by
  have hm := d.mantissa_lt
  unfold signed
  split <;> omega

/-- A decimal with many places is small. -/
theorem units_le_of_scale {d : Decimal} {s : Nat} (hs : s ≤ d.scale) :
    d.units ≤ (twoTo 96 - 1) * tenTo (28 - s) := by
  have hscale : tenTo (28 - d.scale) ≤ tenTo (28 - s) :=
    Nat.pow_le_pow_right (by decide) (by omega)
  calc d.units = d.signed * tenTo (28 - d.scale) := rfl
    _ ≤ (twoTo 96 - 1) * tenTo (28 - d.scale) :=
      Int.mul_le_mul_of_nonneg_right d.signed_le (Int.natCast_nonneg _)
    _ ≤ (twoTo 96 - 1) * tenTo (28 - s) :=
      Int.mul_le_mul_of_nonneg_left (Int.ofNat_le.2 hscale) (by decide)

/-! ## Numbers and their roundings -/

/-- The number of `u` units has a mantissa above 96 bits at a scale, even if it is rounded there. -/
def TooLong (u : Int) (scale : Nat) : Prop :=
  (2 * twoTo 96 - 1) * tenTo (28 - scale) ≤ 2 * u

instance (u : Int) (scale : Nat) : Decidable (TooLong u scale) :=
  inferInstanceAs (Decidable ((2 * twoTo 96 - 1) * tenTo (28 - scale) ≤ 2 * u))

/-- The decimal is the number of `u` units, rounded at its scale if it has to be. -/
structure Rounds (u : Int) (c : Decimal) : Prop where
  le : 2 * c.units ≤ 2 * u + tenTo (28 - c.scale)
  ge : 2 * u ≤ 2 * c.units + tenTo (28 - c.scale)
  tooLong : c.units ≠ u → c.scale < 28 ∧ TooLong u (c.scale + 1)

theorem rounds_self (c : Decimal) : Rounds c.units c where
  le := by have := natCast_tenTo_pos (28 - c.scale); omega
  ge := by have := natCast_tenTo_pos (28 - c.scale); omega
  tooLong := fun h => absurd rfl h

/-- No decimal is too long for a whole number. -/
theorem not_tooLong_units (d : Decimal) : ¬ TooLong d.units 0 := by
  have h := units_le_of_scale (Nat.zero_le d.scale)
  have hpos := natCast_tenTo_pos (28 - 0)
  rw [natCast_twoTo_96] at h
  rw [TooLong, natCast_twoTo_96]
  omega

namespace Rounds

variable {u : Int} {c d : Decimal}

/-- At the scale after that of a rounded number, in units of one half, the number has more than 97
bits. -/
theorem exists_step (h : Rounds u c) (hne : c.units ≠ u) :
    ∃ step : Int, 0 < step ∧ step = tenTo (28 - (c.scale + 1)) ∧
      tenTo (28 - c.scale) = 10 * step ∧ (2 * twoTo 96 - 1) * step ≤ 2 * u := by
  obtain ⟨hlt, htoo⟩ := h.tooLong hne
  refine ⟨tenTo (28 - (c.scale + 1)), natCast_tenTo_pos _, rfl, ?_, htoo⟩
  have hsplit : 28 - c.scale = 1 + (28 - (c.scale + 1)) := by omega
  rw [hsplit, tenTo_add, Int.natCast_mul]
  rfl

/-- A rounded number ends up above every mantissa of 96 bits with one place more. -/
theorem le_units_of_ne (h : Rounds u c) (hne : c.units ≠ u) :
    twoTo 96 * tenTo (28 - (c.scale + 1)) ≤ c.units := by
  obtain ⟨step, hpos, hstep, hten, htoo⟩ := h.exists_step hne
  have hge := h.ge
  rw [← hstep]
  rw [hten] at hge
  have hunits : c.units = c.signed * (10 * step) := by rw [← hten]; rfl
  -- ten times a whole number skips the half that rounding may cost
  have hscaled : (2 * twoTo 96 - 1) * step ≤ (20 * c.signed + 10) * step := by
    have he : (20 * c.signed + 10) * step = 2 * (c.signed * (10 * step)) + 10 * step := by ring
    omega
  have hsigned : (2 * twoTo 96 - 1 : Int) ≤ 20 * c.signed + 10 :=
    Int.le_of_mul_le_mul_right hscaled hpos
  have hten' : (twoTo 96 : Int) ≤ 10 * c.signed := by
    rw [natCast_twoTo_96] at hsigned ⊢
    omega
  calc twoTo 96 * step ≤ 10 * c.signed * step :=
        Int.mul_le_mul_of_nonneg_right hten' (Int.le_of_lt hpos)
    _ = c.units := by rw [hunits]; ring

/-- What is at most a decimal is rounded to at most that decimal. -/
theorem le_of_le (h : Rounds u c) (hd : u ≤ d.units) : c ≤ d := by
  rw [le_iff_units]
  by_cases hne : c.units = u
  · rwa [hne]
  · rcases Nat.lt_or_ge c.scale d.scale with hlt | hge
    · -- a decimal with more places does not reach that far
      obtain ⟨step, hpos, hstep, -, htoo⟩ := h.exists_step hne
      have hsmall := units_le_of_scale (s := c.scale + 1) hlt
      rw [← hstep] at hsmall
      have hdiff : (2 * twoTo 96 - 1) * step = 2 * ((twoTo 96 - 1) * step) + step := by ring
      omega
    · -- both are multiples of one unit, and less than one apart
      have hdu := units_eq_mantissaAt hge c.scale_le
      have hle := h.le
      rw [hdu]
      apply mul_le_mul_of_near (natCast_tenTo_pos _)
      show 2 * c.units ≤ 2 * (d.mantissaAt c.scale * tenTo (28 - c.scale)) + tenTo (28 - c.scale)
      omega

/-- What is at least a decimal is rounded to at least that decimal. -/
theorem ge_of_ge (h : Rounds u c) (hd : d.units ≤ u) : d ≤ c := by
  rw [le_iff_units]
  by_cases hne : c.units = u
  · rwa [hne]
  · rcases Nat.lt_or_ge c.scale d.scale with hlt | hge
    · have hsmall := units_le_of_scale (s := c.scale + 1) hlt
      have hbig := h.le_units_of_ne hne
      have hpos := natCast_tenTo_pos (28 - (c.scale + 1))
      rw [natCast_twoTo_96] at hsmall hbig
      omega
    · have hdu := units_eq_mantissaAt hge c.scale_le
      have hge' := h.ge
      rw [hdu]
      apply mul_le_mul_of_near (natCast_tenTo_pos _)
      show 2 * (d.mantissaAt c.scale * tenTo (28 - c.scale)) ≤ 2 * c.units + tenTo (28 - c.scale)
      omega

/-- A number that is rounded to at most some decimal loses less than ten parts in `2 ^ 97` of that
decimal. -/
theorem lost_le (h : Rounds u c) (hpos : zero ≤ d) (hd : c ≤ d) :
    (2 * twoTo 96 - 1) * (u - c.units) ≤ 10 * d.units := by
  rw [le_iff_units, units_zero] at hpos
  rw [le_iff_units] at hd
  by_cases hne : c.units = u
  · rw [hne]
    omega
  · obtain ⟨step, hstep, hstep', hten, htoo⟩ := h.exists_step hne
    have hge := h.ge
    have hbig := h.le_units_of_ne hne
    have hcu : c.units = 10 * (c.signed * step) := by
      rw [show c.units = c.signed * tenTo (28 - c.scale) from rfl, hten]
      ring
    rw [hten] at hge
    rw [← hstep'] at hbig
    rw [natCast_twoTo_96] at htoo hbig ⊢
    omega

/-- Rounding adds less than ten parts in `2 ^ 97` of the number. -/
theorem gained_le (h : Rounds u c) (hu : 0 ≤ u) :
    (2 * twoTo 96 - 1) * (c.units - u) ≤ 10 * u := by
  by_cases hne : c.units = u
  · rw [hne]
    omega
  · obtain ⟨step, -, -, hten, htoo⟩ := h.exists_step hne
    have hle := h.le
    rw [hten] at hle
    rw [natCast_twoTo_96] at htoo ⊢
    omega

end Rounds

/-! ## The sum -/

/-- A number that is too long at one scale is so at every larger one. -/
theorem TooLong.mono {u : Int} {s t : Nat} (h : TooLong u s) (hst : s ≤ t) : TooLong u t := by
  have hunit : (tenTo (28 - t) : Int) ≤ tenTo (28 - s) :=
    Int.ofNat_le.2 (Nat.pow_le_pow_right (by decide) (by omega))
  unfold TooLong at *
  rw [natCast_twoTo_96] at *
  omega

theorem TooLong.of_le {u v : Int} {s : Nat} (h : TooLong u s) (huv : u ≤ v) : TooLong v s := by
  unfold TooLong at *
  omega

/-- A number is too long for a scale if rounding its mantissa there does not make it fit. -/
theorem tooLong_iff {mantissa scale s : Nat} (hs : s ≤ scale) (hscale : scale ≤ 28) :
    TooLong (mantissa * tenTo (28 - scale)) s ↔
      twoTo 96 ≤ halfEven mantissa (tenTo (scale - s)) := by
  have hsplit : tenTo (28 - s) = tenTo (scale - s) * tenTo (28 - scale) := by
    rw [← tenTo_add]
    congr 1
    omega
  have hpos := tenTo_pos (28 - scale)
  rw [le_halfEven_iff (tenTo_pos (scale - s)) (by decide), TooLong, hsplit]
  have hleft : ((2 * twoTo 96 - 1) * ↑(tenTo (scale - s) * tenTo (28 - scale)) : Int) =
      ((2 * twoTo 96 * tenTo (scale - s) : Nat) - tenTo (scale - s)) * tenTo (28 - scale) := by
    push_cast
    ring
  have hright : (2 * (mantissa * tenTo (28 - scale)) : Int) =
      (2 * mantissa) * tenTo (28 - scale) := by ring
  rw [hleft, hright]
  constructor
  · intro h
    have := Int.le_of_mul_le_mul_right h (Int.natCast_pos.2 hpos)
    omega
  · intro h
    exact Int.mul_le_mul_of_nonneg_right (by omega) (Int.natCast_nonneg _)

/-- A mantissa that was rounded where it first fits is that of the number, rounded. -/
theorem rounds_halfEven {mantissa scale k : Nat} {c : Decimal} (hscale : scale ≤ 28)
    (hk : c.scale + k = scale) (hm : c.signed = halfEven mantissa (tenTo k))
    (hbefore : ∀ j < k, twoTo 96 ≤ halfEven mantissa (tenTo j)) :
    Rounds (mantissa * tenTo (28 - scale)) c := by
  -- in units of the larger scale, rounding moves the mantissa by at most half a place
  have hsplit : tenTo (28 - c.scale) = tenTo k * tenTo (28 - scale) := by
    rw [← tenTo_add]
    congr 1
    omega
  have hunits : c.units =
      ((halfEven mantissa (tenTo k) * tenTo k * tenTo (28 - scale) : Nat) : Int) := by
    rw [units, hm, hsplit]
    push_cast
    ring
  obtain ⟨hle, hge⟩ := halfEven_near (n := mantissa) (tenTo_pos k)
  have hle' := Nat.mul_le_mul_right (tenTo (28 - scale)) hle
  have hge' := Nat.mul_le_mul_right (tenTo (28 - scale)) hge
  rw [Nat.add_mul, Nat.mul_assoc 2, Nat.mul_assoc 2] at hle' hge'
  constructor
  · rw [hsplit, hunits]
    exact_mod_cast hle'
  · rw [hsplit, hunits]
    exact_mod_cast hge'
  · intro hne
    cases k with
    | zero =>
      rw [hunits, halfEven_tenTo_zero] at hne
      exact absurd (by simp) hne
    | succ k =>
      have hlarge := hbefore k (Nat.lt_succ_self k)
      refine ⟨by omega, (tooLong_iff (by omega) hscale).2 ?_⟩
      rwa [show scale - (c.scale + 1) = k by omega]

/-- What becomes of a number that is not negative when it is fitted into 96 bits. -/
theorem fit?_cases {mantissa scale : Nat} (hscale : scale ≤ 28) :
    (fit? false mantissa scale = none ∧ TooLong (mantissa * tenTo (28 - scale)) 0) ∨
      ∃ c, fit? false mantissa scale = some c ∧ ¬ TooLong (mantissa * tenTo (28 - scale)) 0 ∧
        Rounds (mantissa * tenTo (28 - scale)) c := by
  cases hfit : fitFrom mantissa 0 scale with
  | none =>
    refine .inl ⟨by rw [fit?, hfit]; rfl, ?_⟩
    have hlarge := fitFrom_eq_none hfit
    rw [Nat.zero_add] at hlarge
    exact (tooLong_iff (Nat.zero_le scale) hscale).2 hlarge
  | some parts =>
    obtain ⟨m, s⟩ := parts
    obtain ⟨k, hk, hm, hfits, hbefore⟩ := fitFrom_eq_some hfit
    simp only [Nat.zero_add] at hm hbefore
    have hs : s ≤ scale := by omega
    obtain ⟨c, hc, hcs, hcm⟩ := ofParts?_eq_some hfits (Nat.le_trans hs hscale)
    have hshort : ¬ TooLong (mantissa * tenTo (28 - scale)) s := by
      rw [tooLong_iff hs hscale, show scale - s = k by omega, ← hm]
      omega
    refine .inr ⟨c, by rw [fit?, hfit]; exact hc, fun h => hshort (h.mono (Nat.zero_le s)), ?_⟩
    exact rounds_halfEven hscale (by omega) (by rw [hcm, hm]) hbefore

/-- A sum that is not negative is the exact sum up to rounding, unless that is too long for a whole
number. -/
theorem add?_cases_of_nonneg {a b : Decimal} (h : 0 ≤ a.units + b.units) :
    (a.add? b = none ∧ TooLong (a.units + b.units) 0) ∨
      ∃ c, a.add? b = some c ∧ ¬ TooLong (a.units + b.units) 0 ∧ Rounds (a.units + b.units) c := by
  by_cases hza : a.isZero
  · refine .inr ⟨b, by simp [add?, hza], ?_, ?_⟩ <;> rw [units_eq_zero hza, Int.zero_add]
    · exact not_tooLong_units b
    · exact rounds_self b
  · by_cases hzb : b.isZero
    · refine .inr ⟨a, by simp [add?, hza, hzb], ?_, ?_⟩ <;> rw [units_eq_zero hzb, Int.add_zero]
      · exact not_tooLong_units a
      · exact rounds_self a
    · have hs : max a.scale b.scale ≤ 28 := Nat.max_le.2 ⟨a.scale_le, b.scale_le⟩
      have hsum := units_add_eq (Nat.le_max_left a.scale b.scale) (Nat.le_max_right _ _) hs
      have hadd := add?_of_nonzero hza hzb
      -- the sum has the sign of its mantissa at the larger scale, which is a natural number
      have hnonneg :
          0 ≤ a.mantissaAt (max a.scale b.scale) + b.mantissaAt (max a.scale b.scale) := by
        rw [hsum] at h
        exact Int.le_of_mul_le_mul_right (by rwa [Int.zero_mul]) (natCast_tenTo_pos _)
      obtain ⟨n, hn⟩ := Int.eq_ofNat_of_zero_le hnonneg
      rw [hn, Int.natAbs_natCast, decide_eq_false (by omega)] at hadd
      rw [hadd, hsum, hn]
      exact fit?_cases hs

theorem add?_cases {a b : Decimal} (ha : zero ≤ a) (hb : zero < b) :
    (a.add? b = none ∧ TooLong (a.units + b.units) 0) ∨
      ∃ c, a.add? b = some c ∧ ¬ TooLong (a.units + b.units) 0 ∧
        Rounds (a.units + b.units) c := by
  rw [le_iff_units, units_zero] at ha
  rw [lt_iff_units, units_zero] at hb
  exact add?_cases_of_nonneg (by omega)

/-- A difference that is not negative is never too long: it is the exact one up to rounding. -/
theorem sub?_rounds {a b : Decimal} (hb : zero ≤ b) (h : b ≤ a) :
    ∃ c, a.sub? b = some c ∧ Rounds (a.units - b.units) c := by
  rw [le_iff_units, units_zero] at hb
  rw [le_iff_units] at h
  have hunits : a.units + b.neg.units = a.units - b.units := by
    rw [units_neg, Int.sub_eq_add_neg]
  have hcases := add?_cases_of_nonneg (a := a) (b := b.neg) (by omega)
  rw [hunits] at hcases
  obtain ⟨-, hlong⟩ | ⟨c, hc, -, hrounds⟩ := hcases
  · -- the difference is at most the larger number, which is a decimal
    exact absurd (hlong.of_le (by omega)) (not_tooLong_units a)
  · exact ⟨c, hc, hrounds⟩

/-- A sum of an amount that is not negative and a positive one is positive, rounded or not. -/
theorem add?_pos {a b c : Decimal} (ha : zero ≤ a) (hb : zero < b) (h : a.add? b = some c) :
    zero < c := by
  obtain ⟨hnone, -⟩ | ⟨sum, hsum, -, hrounds⟩ := add?_cases ha hb
  · rw [hnone] at h
    cases h
  · obtain rfl : sum = c := Option.some.inj (hsum.symm.trans h)
    -- the exact sum is at least the positive one, and rounding does not cross it
    have hle : b ≤ sum := by
      apply hrounds.ge_of_ge
      rw [le_iff_units, units_zero] at ha
      omega
    exact Int.lt_of_lt_of_le hb hle

end Decimal

end Payments
