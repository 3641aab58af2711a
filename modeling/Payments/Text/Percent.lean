import Payments.Text.Hex
import Payments.Text.Utf8

/-!
# Payments.Text.Percent -- percent-encoding

A character that may not stand in some part of an address is written as the bytes of its UTF-8 form,
each as a percent sign and two hexadecimal digits. Which characters those are is a matter of the
part. A percent sign itself stays as it is, so text that is encoded already is not encoded again.
-/

namespace Payments.Text

/-- A byte as a percent sign and two digits. -/
def percentByte (b : UInt8) : List Char :=
  ['%', upperHexDigit (b.toNat / 16), upperHexDigit (b.toNat % 16)]

/-- Encodes the characters of a set. -/
def percentEncode (set : Char → Bool) (cs : List Char) : List Char :=
  cs.flatMap fun c => if set c then (utf8 (String.singleton c)).flatMap percentByte else [c]

/-- Decodes percent signs that are followed by two digits; others stay as they are. -/
def percentDecode : List Char → List UInt8
  | '%' :: a :: b :: cs =>
    match hexValue? a, hexValue? b with
    | some x, some y => UInt8.ofNat (x * 16 + y) :: percentDecode cs
    | _, _ => utf8 "%" ++ percentDecode (a :: b :: cs)
  | c :: cs => utf8 (String.singleton c) ++ percentDecode cs
  | [] => []

end Payments.Text
