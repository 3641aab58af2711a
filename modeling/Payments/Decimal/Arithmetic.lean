import Payments.Decimal.Basic
import Payments.Decimal.Rounding

/-!
# Payments.Decimal.Arithmetic -- sums and differences of decimals

A sum is taken exactly at the larger of the two scales. If its mantissa does not fit below `2 ^ 96`,
places are given up one at a time, each time rounding the exact sum to the nearest decimal at the
smaller scale, until it fits. A sum that does not fit at scale 0 has no decimal: `add?` is then
`none`. Adding zero, at whatever scale, leaves the other operand as it is.
-/

namespace Payments.Decimal

/-- `mantissa / 10 ^ (dropped + scale)` rounded to the largest scale at most `scale` at which the
mantissa fits. The result is a mantissa and a scale. -/
def fitFrom (mantissa dropped : Nat) : Nat → Option (Nat × Nat)
  | 0 =>
    let m := halfEven mantissa (tenTo dropped)
    if m < twoTo 96 then some (m, 0) else none
  | scale + 1 =>
    let m := halfEven mantissa (tenTo dropped)
    if m < twoTo 96 then some (m, scale + 1) else fitFrom mantissa (dropped + 1) scale

/-- The decimal nearest to `± mantissa / 10 ^ scale`, at the largest scale that holds it. -/
def fit? (negative : Bool) (mantissa scale : Nat) : Option Decimal :=
  (fitFrom mantissa 0 scale).bind fun (m, s) => ofParts? negative m s

/-- The sum, or `none` when it is too large for a decimal. -/
def add? (a b : Decimal) : Option Decimal :=
  if a.isZero then some b
  else if b.isZero then some a
  else
    let scale := max a.scale b.scale
    let sum := a.signed * tenTo (scale - a.scale) + b.signed * tenTo (scale - b.scale)
    fit? (sum < 0) sum.natAbs scale

/-- The difference, or `none` when it is too large for a decimal. -/
def sub? (a b : Decimal) : Option Decimal :=
  add? a b.neg

end Payments.Decimal
