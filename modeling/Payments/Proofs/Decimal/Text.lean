import Payments.Decimal.Codec
import Payments.Proofs.Decimal.Nearest
import Payments.Proofs.Text.Digits

/-!
# Payments.Proofs.Decimal.Text -- what the text of a decimal is read as

The text of a decimal shows its sign, every digit of its mantissa and, by the point, its scale.
Reading it gives the decimal back (`Decimal.ofText?_toText`), with one exception: the sign of a zero
is written, but plain text is never read as a negative zero. So a decimal that was rounded to zero
from below comes back without its sign, as `Decimal.reread`, which is the same number at the same
scale.
-/

namespace Payments

namespace Decimal

/-! ## The sign of a zero -/

/-- What the text of the decimal is read as: the decimal itself, but for the sign of a zero. -/
def reread (d : Decimal) : Decimal :=
  { d with negative := d.negative && d.mantissa != 0 }

/-- A zero with a sign. -/
def IsNegativeZero (d : Decimal) : Prop :=
  d.negative = true ∧ d.mantissa = 0

instance (d : Decimal) : Decidable d.IsNegativeZero := inferInstanceAs (Decidable (_ ∧ _))

@[simp] theorem reread_mantissa (d : Decimal) : d.reread.mantissa = d.mantissa := rfl

@[simp] theorem reread_scale (d : Decimal) : d.reread.scale = d.scale := rfl

/-- Only a zero with a sign is not read as it was written. -/
theorem reread_eq_self_iff {d : Decimal} : d.reread = d ↔ ¬ d.IsNegativeZero := by
  obtain ⟨negative, mantissa, scale, hm, hs⟩ := d
  cases negative <;> by_cases h : mantissa = 0 <;> simp [reread, IsNegativeZero, h]

@[simp] theorem reread_reread (d : Decimal) : d.reread.reread = d.reread := by
  rw [reread_eq_self_iff]
  rintro ⟨hsign, hzero⟩
  simp [reread] at hsign hzero
  exact hsign.2 hzero

/-- What is read is the same number. -/
@[simp] theorem units_reread (d : Decimal) : d.reread.units = d.units := by
  obtain ⟨negative, mantissa, scale, hm, hs⟩ := d
  cases negative <;> by_cases h : mantissa = 0 <;> simp [reread, units, signed, h]

/-- What is read has the same least spelling. -/
@[simp] theorem normalize_reread (d : Decimal) : d.reread.normalize = d.normalize := by
  by_cases h : d.IsNegativeZero
  · have hzero : (stripZeros d.mantissa d.scale).1 = 0 := by
      have := stripZeros_fst_le d.mantissa d.scale
      have := h.2
      omega
    simp [normalize, hzero]
  · rw [reread_eq_self_iff.2 h]

theorem reread_of_pos {d : Decimal} (h : zero < d) : d.reread = d := by
  rw [reread_eq_self_iff]
  rintro ⟨-, hzero⟩
  rw [lt_iff_units, units_zero, units_pos_iff] at h
  simp [signed, hzero] at h

/-! ## Reading digits -/

theorem digit?_of_isDigit {c : Char} (h : c.isDigit = true) :
    digit? c = some (c.toNat - '0'.toNat) := by
  simp [digit?, h]

/-- A digit is taken if there is a place for it and the number stays in range. -/
theorem scan_digit {c : Char} (hc : c.isDigit = true) {d : Draft}
    (hroom : (d.pointed && d.scale == 28) = false)
    (hfits : 10 * d.mantissa + (c.toNat - '0'.toNat) < twoTo 96) (cs : List Char) :
    d.scan (c :: cs) =
      Draft.scan ⟨10 * d.mantissa + (c.toNat - '0'.toNat), if d.pointed then d.scale + 1 else 0,
        d.pointed, true⟩ cs := by
  rw [Draft.scan, if_neg (Bool.eq_false_iff.1 hroom), digit?_of_isDigit hc]
  simp only [Nat.mul_comm d.mantissa 10, hfits, if_true]

/-- The digits before the point are taken as they come, while the number stays in range. -/
theorem scan_whole {ds rest : List Char} {n : Nat} {begun : Bool}
    (hd : ∀ c ∈ ds, c.isDigit = true) (hn : Nat.ofDigitChars 10 ds n < twoTo 96) :
    Draft.scan ⟨n, 0, false, begun⟩ (ds ++ rest) =
      Draft.scan ⟨Nat.ofDigitChars 10 ds n, 0, false, begun || !ds.isEmpty⟩ rest := by
  induction ds generalizing n begun with
  | nil => simp
  | cons c ds ih =>
    rw [Nat.ofDigitChars_cons] at hn ⊢
    rw [List.cons_append, scan_digit (hd c (by simp)) rfl
      (Nat.lt_of_le_of_lt (le_ofDigitChars ds _) hn)]
    refine (ih (fun x hx => hd x (by simp [hx])) hn).trans ?_
    simp

/-- The digits behind the point are taken up to the end, while there are places for them. -/
theorem scan_places {ds : List Char} {n places : Nat} (hd : ∀ c ∈ ds, c.isDigit = true)
    (hn : Nat.ofDigitChars 10 ds n < twoTo 96) (hp : places + ds.length ≤ 28) :
    Draft.scan ⟨n, places, true, true⟩ ds =
      some (Nat.ofDigitChars 10 ds n, places + ds.length) := by
  induction ds generalizing n places with
  | nil => simp [Draft.scan]
  | cons c ds ih =>
    rw [Nat.ofDigitChars_cons] at hn ⊢
    rw [List.length_cons] at hp ⊢
    have hroom : (true && places == 28) = false := by
      rw [Bool.true_and, beq_eq_false_iff_ne]
      omega
    rw [scan_digit (hd c (by simp)) hroom (Nat.lt_of_le_of_lt (le_ofDigitChars ds _) hn)]
    show Draft.scan ⟨_, places + 1, true, true⟩ ds = _
    rw [ih (fun x hx => hd x (by simp [hx])) hn (by omega), Nat.add_right_comm, Nat.add_assoc]

/-! ## Reading what was written -/

/-- The digits of a decimal, with zeros in front of a number below one. -/
def digits (d : Decimal) : List Char :=
  Calendar.padded (d.scale + 1) d.mantissa

theorem scale_lt_length_digits (d : Decimal) : d.scale < d.digits.length := by
  simp only [digits, Calendar.padded, List.length_append, List.length_replicate]
  omega

/-- A decimal is written as its sign and its digits, with the point before the last places. -/
theorem chars_eq (d : Decimal) :
    d.chars = (if d.negative then ['-'] else []) ++
      (d.digits.take (d.digits.length - d.scale) ++
        if d.scale = 0 then [] else '.' :: d.digits.drop (d.digits.length - d.scale)) :=
  List.append_assoc _ _ _

theorem splitSign_append (negative : Bool) {cs : List Char} (h : ∀ c ∈ cs.head?, c.isDigit = true) :
    splitSign ((if negative then ['-'] else []) ++ cs) = (negative, cs) := by
  cases negative with
  | true => rfl
  | false =>
    cases cs with
    | nil => rfl
    | cons c cs =>
      have hc : c.isDigit = true := h c rfl
      simp only [Bool.false_eq_true, if_false, List.nil_append]
      unfold splitSign
      split
      · simp_all
      · simp_all
      · rfl

/-- The digits of a decimal, with the point where its scale says, are read as mantissa and scale. -/
theorem scan_digits (d : Decimal) :
    Draft.empty.scan (d.digits.take (d.digits.length - d.scale) ++
        if d.scale = 0 then [] else '.' :: d.digits.drop (d.digits.length - d.scale)) =
      some (d.mantissa, d.scale) := by
  have hlength := d.scale_lt_length_digits
  have hvalue : Nat.ofDigitChars 10 d.digits 0 = d.mantissa := Calendar.ofDigitChars_padded _ _
  have hdigit : ∀ c ∈ d.digits, c.isDigit = true := fun c hc => Calendar.isDigit_of_mem_padded hc
  -- the whole part is not empty, and its number is no greater than the mantissa
  have hsplit : Nat.ofDigitChars 10 (d.digits.drop (d.digits.length - d.scale))
      (Nat.ofDigitChars 10 (d.digits.take (d.digits.length - d.scale)) 0) = d.mantissa := by
    rw [← Nat.ofDigitChars_append, List.take_append_drop, hvalue]
  have hwhole : (d.digits.take (d.digits.length - d.scale)).isEmpty = false := by
    rw [List.isEmpty_eq_false_iff, ← List.length_pos_iff, List.length_take]
    omega
  have hle := le_ofDigitChars (d.digits.drop (d.digits.length - d.scale))
    (Nat.ofDigitChars 10 (d.digits.take (d.digits.length - d.scale)) 0)
  have hlt : Nat.ofDigitChars 10 (d.digits.take (d.digits.length - d.scale)) 0 < twoTo 96 :=
    Nat.lt_of_le_of_lt (hsplit ▸ hle) d.mantissa_lt
  rw [Draft.empty, scan_whole (fun c hc => hdigit c (List.mem_of_mem_take hc)) hlt, hwhole]
  by_cases hs : d.scale = 0
  · have hall : d.digits.take d.digits.length = d.digits := List.take_length
    simp [hs, Draft.scan, hall, hvalue]
  · have hplaces : (d.digits.drop (d.digits.length - d.scale)).length = d.scale := by
      rw [List.length_drop]
      omega
    rw [if_neg hs, Draft.scan]
    simp only [Bool.false_and, Bool.false_eq_true, if_false]
    rw [show digit? '.' = none from rfl]
    simp only [and_self, if_true]
    rw [Bool.not_false, Bool.or_true,
      scan_places (fun c hc => hdigit c (List.mem_of_mem_drop hc)) (hsplit ▸ d.mantissa_lt)
        (by rw [hplaces, Nat.zero_add]; exact d.scale_le),
      hplaces, hsplit, Nat.zero_add]

/-- The text of a decimal is read as the decimal, but for the sign of a zero. -/
theorem ofText?_toText (d : Decimal) : ofText? d.toText = some d.reread := by
  have hplain : ofPlain? d.chars = some d.reread := by
    have hhead : ∀ c ∈ (d.digits.take (d.digits.length - d.scale) ++
        if d.scale = 0 then [] else
          '.' :: d.digits.drop (d.digits.length - d.scale)).head?, c.isDigit = true := by
      have hlength := d.scale_lt_length_digits
      obtain ⟨c, cs, hds⟩ := List.exists_cons_of_length_pos
        (l := d.digits.take (d.digits.length - d.scale)) (by rw [List.length_take]; omega)
      intro x hx
      rw [hds] at hx
      obtain rfl : c = x := by simpa using hx
      have hmem : c ∈ d.digits := List.mem_of_mem_take (hds ▸ List.mem_cons_self)
      exact Calendar.isDigit_of_mem_padded hmem
    rw [chars_eq, ofPlain?, splitSign_append d.negative hhead]
    simp only [scan_digits, Option.bind_eq_bind, Option.bind_some, ofParts?, d.mantissa_lt,
      d.scale_le, and_self, dif_pos]
    rfl
  rw [ofText?, toText, String.toList_ofList, hplain]
  rfl

/-! ## The shortest text of a number -/

/-- The text spells the number, and no zero stands at the end of its fraction. -/
structure IsShortest (d : Decimal) (text : String) : Prop where
  read : ∃ e, ofText? text = some e ∧ e ≈ d
  short : '.' ∈ text.toList → text.toList.getLast? ≠ some '0'

/-- A mantissa without zeros at its end is the same number at its scale. -/
theorem stripZeros_mul (mantissa : Nat) {scale : Nat} (hs : scale ≤ 28) :
    (stripZeros mantissa scale).1 * tenTo (28 - (stripZeros mantissa scale).2) =
      mantissa * tenTo (28 - scale) := by
  induction scale generalizing mantissa with
  | zero => rfl
  | succ scale ih =>
    rw [stripZeros]
    split
    · next hzero =>
      have hsplit : tenTo (28 - scale) = 10 * tenTo (28 - (scale + 1)) := by
        rw [show 28 - scale = 28 - (scale + 1) + 1 by omega, tenTo_add, Nat.mul_comm]
      rw [ih (mantissa / 10) (by omega), hsplit, ← Nat.mul_assoc,
        Nat.div_mul_cancel (Nat.dvd_of_mod_eq_zero hzero)]
    · rfl

/-- Zeros are dropped until there are no places left or the last digit is another. -/
theorem stripZeros_least (mantissa scale : Nat) :
    (stripZeros mantissa scale).2 = 0 ∨ (stripZeros mantissa scale).1 % 10 ≠ 0 := by
  induction scale generalizing mantissa with
  | zero => exact .inl rfl
  | succ scale ih =>
    rw [stripZeros]
    split
    · exact ih (mantissa / 10)
    · next hother => exact .inr hother

@[simp] theorem units_normalize (d : Decimal) : d.normalize.units = d.units := by
  have hstrip : (d.normalize.mantissa * tenTo (28 - d.normalize.scale) : Int) =
      d.mantissa * tenTo (28 - d.scale) := by
    exact_mod_cast stripZeros_mul d.mantissa d.scale_le
  have hsign : d.normalize.signed =
      if d.negative then -(d.normalize.mantissa : Int) else d.normalize.mantissa := by
    by_cases hzero : (stripZeros d.mantissa d.scale).1 = 0
    · simp [signed, normalize, hzero]
    · simp [signed, normalize, hzero]
  rw [units, units, hsign, signed]
  split
  · rw [Int.neg_mul, Int.neg_mul, hstrip]
  · exact hstrip

/-- The point is written only before places. -/
theorem scale_ne_zero_of_point {d : Decimal} (h : '.' ∈ d.chars) : d.scale ≠ 0 := by
  intro hs
  have hpoint : '.' ∉ d.digits := fun hmem =>
    absurd (Calendar.isDigit_of_mem_padded hmem) (by decide)
  rw [chars_eq, if_pos hs, List.append_nil, List.mem_append] at h
  rcases h with hsign | hdigit
  · split at hsign
    · exact absurd (List.mem_singleton.1 hsign) (by decide)
    · cases hsign
  · exact hpoint (List.mem_of_mem_take hdigit)

/-- A text with places ends with the last digit. -/
theorem getLast?_chars {d : Decimal} (hs : d.scale ≠ 0) : d.chars.getLast? = d.digits.getLast? := by
  have hlength := d.scale_lt_length_digits
  have hplaces : d.digits.drop (d.digits.length - d.scale) ≠ [] := by
    rw [Ne, List.drop_eq_nil_iff]
    omega
  have hdigits : d.digits.getLast? = (d.digits.drop (d.digits.length - d.scale)).getLast? := by
    rw [List.getLast?_drop, if_neg (by omega)]
  rw [chars_eq, if_neg hs, hdigits, List.getLast?_append, List.getLast?_append, List.getLast?_cons,
    List.getLast?_eq_some_getLast hplaces]
  rfl

/-- At its least scale a number is written with its shortest text. -/
theorem isShortest_toText_normalize (d : Decimal) : d.IsShortest d.normalize.toText where
  read := ⟨_, ofText?_toText _, by rw [equiv_iff_units, units_reread, units_normalize]⟩
  short := by
    intro hpoint
    rw [toText, String.toList_ofList] at *
    have hs := scale_ne_zero_of_point hpoint
    rw [getLast?_chars hs]
    rcases stripZeros_least d.mantissa d.scale with hnone | hlast
    · exact absurd hnone hs
    · exact Calendar.getLast?_padded_ne_zero hlast _

end Decimal

end Payments
