import Payments.Decimal.Rounding
import Payments.Number.Power

/-!
# Payments.Number.Binary64 -- finite doubles in whole-number arithmetic

A nonnegative finite double is `mantissa * 2 ^ exponent` with a mantissa below `2 ^ 53` and an
exponent between -1074 and 971. The operations take the exact result as a ratio of whole numbers and
round it once, to the nearest double with ties to the even mantissa; a result past the largest
finite double is `none`.
-/

namespace Payments

/-- The double `mantissa * 2 ^ exponent`. -/
structure Binary64 where
  mantissa : Nat
  exponent : Int
deriving DecidableEq, Repr

namespace Binary64

/-- The double zero, at the least exponent. -/
def zero : Binary64 := ⟨0, -1074⟩

instance : Inhabited Binary64 := ⟨zero⟩

/-- `2 ^ e` for a nonnegative exponent and 1 for a negative one: the numerator of `2 ^ e`. -/
def twoNum (e : Int) : Nat := twoTo e.toNat

/-- The denominator of `2 ^ e`. -/
def twoDen (e : Int) : Nat := twoTo (-e).toNat

/-- The greatest `k` with `2 ^ k ≤ n / d`, for positive `n` and `d`. -/
def log2Ratio (n d : Nat) : Int :=
  let k : Int := (n.log2 : Int) - d.log2
  if d * twoNum k ≤ n * twoDen k then k else k - 1

/-- The double nearest to `n / d`, or `none` when that is past the largest finite double. -/
def ofRatio? (n d : Nat) : Option Binary64 :=
  if n = 0 then some zero
  else
    let e := max (log2Ratio n d - 52) (-1074)
    let m := halfEven (n * twoDen e) (d * twoNum e)
    let r : Binary64 := if m = twoTo 53 then ⟨twoTo 52, e + 1⟩ else ⟨m, e⟩
    if r.exponent ≤ 971 then some r else none

/-- The double nearest to a whole number. -/
def ofNat? (n : Nat) : Option Binary64 :=
  ofRatio? n 1

/-- The product, rounded once. -/
def mul? (a b : Binary64) : Option Binary64 :=
  let e := a.exponent + b.exponent
  ofRatio? (a.mantissa * b.mantissa * twoNum e) (twoDen e)

/-- The quotient by a positive double, rounded once. -/
def div? (a b : Binary64) : Option Binary64 :=
  let e := a.exponent - b.exponent
  ofRatio? (a.mantissa * twoNum e) (b.mantissa * twoDen e)

/-- The double nearest to `10 ^ k`. -/
def powTen? (k : Nat) : Option Binary64 :=
  ofNat? (tenTo k)

/-- `a * 10 ^ e`: the product or the quotient of `a` and the double nearest to `10 ^ |e|`. An
exponent below -308 is taken in two divisions, and one below -616 leaves nothing. -/
def scaleTen? (a : Binary64) (e : Int) : Option Binary64 :=
  if a.mantissa = 0 then some a
  else if 0 ≤ e then
    if e ≤ 308 then (powTen? e.toNat).bind a.mul? else none
  else if -308 ≤ e then (powTen? (-e).toNat).bind a.div?
  else if -616 ≤ e then do
    let b ← (powTen? 308).bind a.div?
    (powTen? (-e - 308).toNat).bind b.div?
  else some zero

end Binary64

end Payments
