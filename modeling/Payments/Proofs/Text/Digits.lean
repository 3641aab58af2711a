import Payments.Calendar.Text
import Payments.Decimal.Text

/-!
# Payments.Proofs.Text.Digits -- numbers as rows of digits

Amounts and times are written with the decimal digits of numbers, with zeros in front up to a width.
Such a row consists of digits only, has the width asked for as long as the number fits it, and is
read as the number that was written. The readers of amounts and of times are built on these facts.
-/

namespace Payments

/-- The numbers that digits stand for grow with every digit. -/
theorem le_ofDigitChars (ds : List Char) (n : Nat) : n ≤ Nat.ofDigitChars 10 ds n := by
  induction ds generalizing n with
  | nil => simp
  | cons c ds ih =>
    rw [Nat.ofDigitChars_cons]
    have := ih (10 * n + (c.toNat - '0'.toNat))
    omega

/-! ## Digits in front of other characters -/

/-- Where no digit stands: at the end, or before another character. -/
def StopsDigits (rest : List Char) : Prop :=
  ∀ c cs, rest = c :: cs → c.isDigit = false

@[simp] theorem stopsDigits_nil : StopsDigits [] := by
  intro c cs h
  cases h

@[simp] theorem stopsDigits_cons {c : Char} {cs : List Char} :
    StopsDigits (c :: cs) ↔ c.isDigit = false := by
  constructor
  · intro h
    exact h c cs rfl
  · intro h d ds heq
    cases heq
    exact h

theorem takeWhile_isDigit_append {ds rest : List Char} (hd : ∀ c ∈ ds, c.isDigit = true)
    (hr : StopsDigits rest) : (ds ++ rest).takeWhile Char.isDigit = ds := by
  rw [List.takeWhile_append_of_pos hd]
  cases rest with
  | nil => simp
  | cons c cs => simp [stopsDigits_cons.1 hr]

/-! ## Rows of a width -/

namespace Calendar

theorem isDigit_of_mem_padded {width n : Nat} {c : Char} (h : c ∈ padded width n) :
    c.isDigit = true := by
  rcases List.mem_append.1 h with hz | hd
  · obtain ⟨-, rfl⟩ := List.mem_replicate.1 hz
    rfl
  · exact Nat.isDigit_of_mem_toDigits (by decide) (by decide) hd

@[simp] theorem ofDigitChars_padded (width n : Nat) :
    Nat.ofDigitChars 10 (padded width n) 0 = n := by
  simp [padded, Nat.ofDigitChars_append]

theorem padded_ne_nil (width n : Nat) : padded width n ≠ [] := by
  simp [padded, Nat.toDigits_ne_nil]

/-- A number that fits the width is written with just so many digits. -/
theorem length_padded {width n : Nat} (hw : 0 < width) (h : n < tenTo width) :
    (padded width n).length = width := by
  have := (Nat.length_toDigits_le_iff (b := 10) (by decide) hw).2 h
  simp only [padded, List.length_append, List.length_replicate]
  omega

/-- A row starts with a digit. -/
theorem padded_eq_cons (width n : Nat) :
    ∃ c cs, padded width n = c :: cs ∧ c.isDigit = true := by
  obtain ⟨c, cs, h⟩ := List.exists_cons_of_ne_nil (padded_ne_nil width n)
  have hmem : c ∈ padded width n := by simp [h]
  exact ⟨c, cs, h, isDigit_of_mem_padded hmem⟩

/-- A row ends with a zero only if the number does. -/
theorem getLast?_padded_ne_zero {n : Nat} (h : n % 10 ≠ 0) (width : Nat) :
    (padded width n).getLast? ≠ some '0' := by
  intro hzero
  obtain ⟨front, hfront⟩ := List.getLast?_eq_some_iff.1 hzero
  have hvalue := ofDigitChars_padded width n
  rw [hfront, Nat.ofDigitChars_append, Nat.ofDigitChars_cons, Nat.ofDigitChars_nil] at hvalue
  have hten : 10 * Nat.ofDigitChars 10 front 0 + 0 = n := hvalue
  omega

end Calendar

end Payments
