import Payments.Json.Token
import Payments.Number.Shortest

/-!
# Payments.Json.Number -- numbers in JSON

A number spelled without fraction and exponent is a whole number if it fits a signed or an unsigned
word of 64 bits. Every other number is a double: as many digits as fit an unsigned word are taken,
and the double nearest to them is multiplied or divided once by the double nearest to a power of
ten. This is not always the double nearest to the number as spelled (`9007199254740993.0` becomes
`9007199254740994`), and it is what decides which amount such a number stands for. A number past the
largest double has no value.
-/

namespace Payments.Json

/-- A number that has been read. -/
inductive Number where
  | int (i : Int)
  | double (negative : Bool) (magnitude : Binary64)
deriving DecidableEq, Repr

/-- The value of a digit. -/
def digitValue (c : Char) : Nat :=
  c.toNat - '0'.toNat

/-- Appends digits to a number while it stays below `2 ^ 64`: the number and the digits left. -/
def takeDigits : Nat → List Char → Nat × List Char
  | m, [] => (m, [])
  | m, c :: cs =>
    if m * 10 + digitValue c < twoTo 64 then takeDigits (m * 10 + digitValue c) cs else (m, c :: cs)

/-- The exponent as a whole number; an absent one is zero. -/
def Numeral.exponentValue (n : Numeral) : Int :=
  match n.exponent with
  | none => 0
  | some (negative, digits) =>
    let e : Int := Nat.ofDigitChars 10 digits 0
    if negative then -e else e

/-- The double that the number stands for. -/
def Numeral.double? (n : Numeral) : Option Binary64 :=
  let (whole, skipped) := takeDigits 0 n.whole
  let (significand, dropped) := takeDigits whole n.fraction
  let places : Int := (n.fraction.length : Int) - dropped.length
  (Binary64.ofNat? significand).bind fun a =>
    a.scaleTen? (skipped.length - places + n.exponentValue)

/-- The number, unless it is past the largest double. -/
def Numeral.value? (n : Numeral) : Option Number :=
  let (whole, skipped) := takeDigits 0 n.whole
  let isInteger := n.fraction.isEmpty && n.exponent.isNone && skipped.isEmpty
  if isInteger && !n.negative then some (.int whole)
  else if isInteger && 0 < whole && whole ≤ twoTo 63 then some (.int (-whole))
  else n.double?.map (.double n.negative)

/-! ## Writing -/

/-- How doubles are written: up to which power of ten the point is placed among the digits, and how
an exponent is spelled beyond that. -/
structure DoubleStyle where
  tie : TieRule
  leastPositional : Int
  greatestPositional : Int
  plusSign : Bool

/-- A double in a JSON text has a point or an exponent, is written without exponent between `1e-5`
and `1e16`, and shows the sign of its exponent. -/
def jsonDoubles : DoubleStyle where
  tie := .toEven
  leastPositional := -5
  greatestPositional := 15
  plusSign := true

/-- The magnitude of a double in the given style. -/
def DoubleStyle.write (style : DoubleStyle) (a : Binary64) : List Char :=
  if a.mantissa = 0 then ['0', '.', '0']
  else
    let (digits, k) := a.shortest style.tie
    let ds := Nat.toDigits 10 digits
    let lead : Int := k + ds.length - 1
    if style.leastPositional ≤ lead && lead ≤ style.greatestPositional then
      let cs := Binary64.positional digits k
      if 0 ≤ k then cs ++ ['.', '0'] else cs
    else
      let mantissa := match ds with
        | [d] => [d]
        | d :: rest => d :: '.' :: rest
        | [] => []
      let sign := if lead < 0 then ['-'] else if style.plusSign then ['+'] else []
      mantissa ++ ['e'] ++ sign ++ Nat.toDigits 10 lead.natAbs

/-- The characters of a whole number. -/
def intChars (i : Int) : List Char :=
  (if i < 0 then ['-'] else []) ++ Nat.toDigits 10 i.natAbs

/-- The characters of a number. -/
def Number.chars : Number → List Char
  | .int i => intChars i
  | .double negative a => (if negative then ['-'] else []) ++ jsonDoubles.write a

end Payments.Json
