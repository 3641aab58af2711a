import Payments.Decimal.Basic
import Payments.Decimal.Rounding

/-!
# Payments.Decimal.Text -- decimals as text

A decimal is written with exactly `scale` digits after the point, so the text shows the scale.

Text is read in two ways. *Plain* text is an optional sign, digits with at most one point, and
underscores anywhere after the first digit. Digits that no longer fit, because 28 places are taken
or the mantissa is full, are rounded off, half away from zero; the first of them decides.
*Scientific* text is plain text, `e` or `E`, and an exponent of at most 28. A number that it makes
too small for 28 places is rounded to them, half away from zero, and keeps its sign even if that
makes it zero; one that it makes too large is refused.
-/

namespace Payments.Decimal

/-! ## Writing -/

/-- Digits padded with zeros on the left up to `width`. -/
def padLeft (width : Nat) (digits : List Char) : List Char :=
  List.replicate (width - digits.length) '0' ++ digits

/-- The characters of the decimal's text. -/
def chars (d : Decimal) : List Char :=
  let digits := padLeft (d.scale + 1) (Nat.toDigits 10 d.mantissa)
  let whole := digits.take (digits.length - d.scale)
  let places := digits.drop (digits.length - d.scale)
  (if d.negative then ['-'] else []) ++ whole ++ if d.scale = 0 then [] else '.' :: places

/-- The decimal as text, with as many digits after the point as its scale. -/
def toText (d : Decimal) : String :=
  String.ofList d.chars

/-! ## Reading plain text -/

/-- The value of a decimal digit. -/
def digit? (c : Char) : Option Nat :=
  if c.isDigit then some (c.toNat - '0'.toNat) else none

/-- A number that is being read: the digits so far and whether the point has been passed. -/
structure Draft where
  mantissa : Nat
  scale : Nat
  pointed : Bool
  begun : Bool

/-- The draft before the first digit. -/
def Draft.empty : Draft := ⟨0, 0, false, false⟩

/-- Whether a character may stand among the digits of a number. -/
def isDigitOrGap (c : Char) : Bool :=
  c.isDigit || c == '_'

/-- The draft rounded by the characters that no longer fit: up, if the first digit among them says
so. -/
def Draft.round (d : Draft) (rest : List Char) : Option (Nat × Nat) :=
  if !rest.all isDigitOrGap then none
  else if ((rest.find? Char.isDigit).bind digit?).getD 0 < 5 then some (d.mantissa, d.scale)
  else if d.mantissa + 1 < twoTo 96 then some (d.mantissa + 1, d.scale)
  else if d.scale = 0 then none
  else some ((d.mantissa + 5) / 10, d.scale - 1)

/-- Reads the rest of a plain number into a mantissa and a scale. -/
def Draft.scan : Draft → List Char → Option (Nat × Nat)
  | d, [] => if d.begun then some (d.mantissa, d.scale) else none
  | d, c :: cs =>
    if d.pointed && d.scale == 28 then d.round (c :: cs)
    else
      match digit? c with
      | some n =>
        let mantissa := d.mantissa * 10 + n
        if mantissa < twoTo 96 then
          Draft.scan ⟨mantissa, if d.pointed then d.scale + 1 else 0, d.pointed, true⟩ cs
        else if d.pointed then d.round (c :: cs)
        else none
      | none =>
        if c = '.' ∧ d.pointed = false then Draft.scan { d with pointed := true } cs
        else if c = '_' ∧ d.begun then Draft.scan d cs
        else none

/-- Takes a sign off the front: whether it is a minus, and the rest. -/
def splitSign : List Char → Bool × List Char
  | '-' :: cs => (true, cs)
  | '+' :: cs => (false, cs)
  | cs => (false, cs)

/-- Reads plain decimal text. -/
def ofPlain? (cs : List Char) : Option Decimal := do
  let (negative, rest) := splitSign cs
  let (mantissa, scale) ← Draft.empty.scan rest
  ofParts? negative mantissa scale

/-! ## Reading scientific text -/

/-- A sign-free exponent: digits, with an optional plus in front. -/
def exponent? (cs : List Char) : Option Nat :=
  let digits := match cs with
    | '+' :: rest => rest
    | rest => rest
  if digits ≠ [] ∧ digits.all Char.isDigit then some (Nat.ofDigitChars 10 digits 0) else none

/-- The number times `10 ^ e`. Places are given back first; only then does the mantissa grow. -/
def scaleUp? (d : Decimal) (e : Nat) : Option Decimal :=
  if e ≤ d.scale then ofParts? d.negative d.mantissa (d.scale - e)
  else if e ≤ 28 then ofParts? d.negative (d.mantissa * tenTo (e - d.scale)) 0
  else none

/-- The number at scale 28, rounded, if it is written with more places. -/
def ofManyPlaces (d : Decimal) (places : Nat) : Decimal where
  negative := d.negative
  mantissa := halfUp d.mantissa (tenTo (places - 28))
  scale := 28
  mantissa_lt :=
    Nat.lt_of_le_of_lt (halfUp_le (Nat.pow_pos (by decide)) d.mantissa) d.mantissa_lt
  scale_le := Nat.le_refl 28

/-- The number divided by `10 ^ e`, to 28 places. -/
def scaleDown? (d : Decimal) (e : Nat) : Option Decimal :=
  if 28 < e then none
  else if 28 < d.scale + e then some (d.ofManyPlaces (d.scale + e))
  else ofParts? d.negative d.mantissa (d.scale + e)

/-- Whether the character separates a mantissa from an exponent. -/
def isExponentMark (c : Char) : Bool :=
  c == 'e' || c == 'E'

/-- Reads scientific text: a plain number, an exponent mark and an exponent. -/
def ofScientific? (cs : List Char) : Option Decimal := do
  let base ← ofPlain? (cs.takeWhile (!isExponentMark ·))
  match cs.dropWhile (!isExponentMark ·) with
  | _ :: '-' :: rest => base.scaleDown? (← exponent? rest)
  | _ :: rest => base.scaleUp? (← exponent? rest)
  | [] => none

/-- Reads a decimal from text: plain if it is plain, else scientific. -/
def ofText? (s : String) : Option Decimal :=
  (ofPlain? s.toList).orElse fun _ => ofScientific? s.toList

end Payments.Decimal
