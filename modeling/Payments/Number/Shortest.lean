import Payments.Number.Binary64

/-!
# Payments.Number.Shortest -- the shortest decimal that reads back as a double

Every real number in an interval around a double rounds to it. Among the decimals `digits * 10 ^ k`
in that interval, `Binary64.shortest` takes one with the largest `k`, hence with the fewest digits,
and of two with that `k` the nearer to the double; a tie is settled by the caller's `TieRule`.

The search walks the decimal grids from coarse to fine. If a grid has a point in the interval, then
one of the two grid points next to the double lies in it, so only those two are tried.
-/

namespace Payments

/-- Which of two equally near decimals is taken. -/
inductive TieRule where
  | up
  | toEven
deriving DecidableEq, Repr

namespace Binary64

/-- The interval of the reals that round to a double, times `4 / 2 ^ exponent`: its two ends and
whether they belong to it. -/
def interval (a : Binary64) : Nat × Nat × Bool :=
  let below := if a.mantissa = twoTo 52 ∧ -1074 < a.exponent then 1 else 2
  (4 * a.mantissa - below, 4 * a.mantissa + 2, a.mantissa % 2 = 0)

/-- The decimal of the grid `10 ^ k` that stands for the double, if the grid has one. -/
def gridPoint? (a : Binary64) (tie : TieRule) (k : Int) : Option Nat :=
  let e := a.exponent - 2
  let num := twoNum e * tenTo (-k).toNat
  let den := twoDen e * tenTo k.toNat
  let (lo, hi, closed) := a.interval
  let value := 4 * a.mantissa * num
  let floor := value / den
  let reaches (x y : Nat) : Bool := if closed then x ≤ y else x < y
  let downHit := reaches (lo * num) (floor * den)
  let upHit := reaches ((floor + 1) * den) (hi * num)
  let twice := 2 * (value % den)
  let takeUp := match tie with
    | .up => den ≤ twice
    | .toEven => den < twice || (den == twice && floor % 2 == 1)
  if upHit && (!downHit || takeUp) then some (floor + 1)
  else if downHit then some floor
  else none

/-- The first grid with a point for the double, walking from `10 ^ k` to finer ones. -/
def searchGrids (a : Binary64) (tie : TieRule) : Nat → Int → Nat × Int
  | 0, k => (0, k)
  | fuel + 1, k =>
    match a.gridPoint? tie k with
    | some digits => (digits, k)
    | none => searchGrids a tie fuel (k - 1)

/-- The digits and the power of ten of the shortest decimal that reads back as the double. Seventeen
digits always suffice, so the search ends within the grids it is given. -/
def shortest (a : Binary64) (tie : TieRule) : Nat × Int :=
  if a.mantissa = 0 then (0, 0)
  else
    let log2 := (a.mantissa.log2 : Int) + a.exponent
    searchGrids a tie 24 (log2 * 30103 / 100000 + 2)

/-- `digits * 10 ^ k` written without an exponent; a whole number gets no point. -/
def positional (digits : Nat) (k : Int) : List Char :=
  let ds := Nat.toDigits 10 digits
  if 0 ≤ k then (if digits = 0 then ds else ds ++ List.replicate k.toNat '0')
  else
    let places := (-k).toNat
    let padded := List.replicate (places + 1 - ds.length) '0' ++ ds
    padded.take (padded.length - places) ++ '.' :: padded.drop (padded.length - places)

end Binary64

end Payments
