import Payments.Decimal.Text
import Payments.Json.Codec

/-!
# Payments.Decimal.Codec -- amounts in JSON

An amount is written as a string, so that no reader rounds it. It is read from a string, or from a
number: a whole number of 64 bits exactly, any other number through the shortest text of the double
it stands for.
-/

namespace Payments.Decimal

/-- The amount that a number in a JSON text stands for. -/
def ofNumber? : Json.Number → Option Decimal
  | .int i => ofInt? i
  | .double negative a =>
    let (digits, k) := a.shortest .up
    ofPlain? ((if negative then ['-'] else []) ++ Binary64.positional digits k)

/-- Amounts in JSON. -/
def codec : Json.Codec Decimal where
  write d := .text d.toText
  read
    | .text s =>
      match ofText? s with
      | some d => .ok d
      | none => .error .mismatch
    | .number n =>
      match n.value? with
      | none => .error .malformed
      | some v =>
        match ofNumber? v with
        | some d => .ok d
        | none => .error .mismatch
    | d => .error d.refusal

end Payments.Decimal
