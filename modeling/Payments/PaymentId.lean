import Payments.Error
import Payments.Text.Uuid

/-!
# Payments.PaymentId -- the identity of a stored payment

An identity is any text that is not blank. Identities are compared as text, character by character.
-/

namespace Payments

/-- The identity of a payment. -/
structure PaymentId where
  text : String
  notBlank : Text.isBlankText text = false
deriving DecidableEq

namespace PaymentId

theorem text_injective {i j : PaymentId} (h : i.text = j.text) : i = j := by
  cases i
  cases j
  cases h
  rfl

/-- The identity with this text, unless it is blank. -/
def of? (value : String) : Option PaymentId :=
  if h : Text.isBlankText value = false then some ⟨value, h⟩ else none

/-- The identity with this text; blank text is refused. -/
def ofText (value : String) : Outcome PaymentId :=
  match of? value with
  | some id => .ok id
  | none => refuse (.invalidValue "payment_id")

/-- The identity made of a random number. -/
def ofRandom (random : Nat) : PaymentId :=
  ⟨Text.uuid random, Text.uuid_not_blank random⟩

/-- Whether an identity comes no later than another, by the code points of their texts. -/
def notAfter (a b : PaymentId) : Bool :=
  !decide (b.text < a.text)

/-- The identities in order. -/
def inOrder (ids : List PaymentId) : List PaymentId :=
  ids.mergeSort notAfter

/-- An identity is written as its text. -/
def codec : Json.Codec PaymentId :=
  Json.Codec.text.refine PaymentId.text fun s =>
    match of? s with
    | some id => .ok id
    | none => .error (.refused (PaymentError.invalidValue "payment_id").message)

end PaymentId

end Payments
