import Payments.Calendar.Text
import Payments.Json.Codec

/-!
# Payments.Calendar.Codec -- times in JSON

Instants and local times are written as their text and read from any text that is accepted as one.
-/

namespace Payments

/-- Instants in JSON. -/
def Instant.codec : Json.Codec Instant :=
  Json.Codec.text.refine Instant.toText fun s =>
    match Instant.ofText? s with
    | some t => .ok t
    | none => .error .mismatch

/-- Local times in JSON. -/
def LocalTime.codec : Json.Codec LocalTime :=
  Json.Codec.text.refine LocalTime.toText fun s =>
    match LocalTime.ofText? s with
    | some t => .ok t
    | none => .error .mismatch

end Payments
