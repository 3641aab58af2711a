import Payments.Number.Power
import Payments.Text.Blank
import Payments.Text.Hex

/-!
# Payments.Text.Uuid -- random identifiers

An identifier is made of sixteen random bytes, six bits of which are fixed to say so. It is written
as thirty-two hexadecimal digits in five groups.
-/

namespace Payments.Text

/-- The identifier made of a random number of 122 bits: forty-eight, twelve and sixty-two of them,
with the fixed bits between. -/
def uuid (random : Nat) : String :=
  let high := random / twoTo 74 % twoTo 48
  let middle := random / twoTo 62 % twoTo 12
  let low := random % twoTo 62
  let first := hexDigits 12 high
  let last := hexDigits 16 (twoTo 63 + low)
  String.ofList
    (first.take 8 ++ '-' :: first.drop 8 ++ '-' :: '4' :: hexDigits 3 middle ++ '-' ::
      last.take 4 ++ '-' :: last.drop 4)

theorem uuid_not_blank (random : Nat) : isBlankText (uuid random) = false := by
  have h : '-' ∈ (uuid random).toList := by simp [uuid]
  simp only [isBlankText, List.all_eq_false]
  exact ⟨'-', h, by decide⟩

end Payments.Text
