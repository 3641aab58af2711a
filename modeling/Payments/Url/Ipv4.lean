import Payments.Number.Power
import Payments.Text.Hex
import Payments.Text.Parts

/-!
# Payments.Url.Ipv4 -- numeric hosts of four bytes

A host whose last label is a number is a numeric address. Each number may be decimal, octal or
hexadecimal. There may be fewer than four; the last then fills the bytes that are left.
-/

namespace Payments.Url.Ipv4

/-- A number in decimal, octal (behind `0`) or hexadecimal (behind `0x`) digits. -/
def number? (cs : List Char) : Option Nat :=
  let digits (base : Nat) (ds : List Char) : Option Nat :=
    ds.foldlM (fun n d => (Text.hexValue? d).bind fun v =>
      if v < base then some (n * base + v) else none) 0
  match cs with
  | [] => none
  | '0' :: 'x' :: ds => digits 16 ds
  | '0' :: 'X' :: ds => digits 16 ds
  | '0' :: d :: ds => digits 8 (d :: ds)
  | ds => digits 10 ds

/-- Whether a host that ends with this label has to be a numeric address. -/
def isNumericLabel (cs : List Char) : Bool :=
  !cs.isEmpty && (cs.all Char.isDigit || (number? cs).isSome)

/-- The labels of a host name; a point at its end is none of their separators. -/
def labels (name : List Char) : List (List Char) :=
  let labels := Text.parts (· = '.') name
  if labels.getLast? = some [] && 1 < labels.length then labels.dropLast else labels

/-- Whether a host name has to be a numeric address. -/
def isNumeric (name : List Char) : Bool :=
  (labels name).getLast?.any isNumericLabel

/-- The numeric address that a host name spells: each number but the last is a byte, the last one
fills up four. -/
def address? (name : List Char) : Option Nat := do
  let numbers ← (labels name).mapM number?
  let last ← numbers.getLast?
  let front := numbers.dropLast
  if 4 < numbers.length || front.any (255 < ·) || twoTo (8 * (4 - front.length)) ≤ last then none
  else some ((front.zipIdx.foldl (fun n (b, i) => n + b * twoTo (8 * (3 - i))) 0) + last)

/-- A numeric address as four bytes with points between them. -/
def text (n : Nat) : String :=
  ".".intercalate ([n / twoTo 24 % 256, n / twoTo 16 % 256, n / 256 % 256, n % 256].map toString)

end Payments.Url.Ipv4
