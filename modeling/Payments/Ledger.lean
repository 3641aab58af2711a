import Payments.Decimal.Arithmetic
import Payments.Decimal.Codec
import Payments.Error

/-!
# Payments.Ledger -- how much of a payment has been refunded

The ledger of a payment holds its amount, the sum refunded so far and the currency. It only grows by
refunds: each is positive, and together they never exceed the amount. Amounts are compared as
numbers, so `10000` and `10000.00` are the same amount.

A ledger that is read from text is rebuilt by the same two steps, opening it and entering what was
refunded as one refund, so nothing can be read that could not have been built.
-/

namespace Payments

/-- The amount of a payment and what has been refunded of it. -/
structure Ledger where
  amount : Decimal
  refunded : Decimal
  currency : String
deriving DecidableEq

namespace Ledger

/-- The currency of an amount that names none. -/
def defaultCurrency : String := "KRW"

/-- A ledger for a positive amount, with nothing refunded. Blanks around the currency are dropped,
and a blank currency is the default one. -/
def inCurrency (amount : Decimal) (currency : String) : Outcome Ledger :=
  if amount ≤ Decimal.zero then
    refuse (.invalidAmount s!"payment amount must be positive, got {amount.toText}")
  else
    let trimmed := Text.trim currency
    .ok
      { amount
        refunded := Decimal.zero
        currency := if trimmed.isEmpty then defaultCurrency else trimmed }

/-- A ledger for a positive amount in the default currency. -/
def ofAmount (amount : Decimal) : Outcome Ledger :=
  inCurrency amount defaultCurrency

/-- Enters a refund. -/
def refund (l : Ledger) (amount : Decimal) : Outcome Ledger :=
  if amount ≤ Decimal.zero then
    refuse (.invalidRefundAmount s!"refund amount must be positive, got {amount.toText}")
  else
    match l.refunded.add? amount with
    | none => .error (.overflowed .addition)
    | some total =>
      if l.amount < total then refuse (.refundExceedsPayment l.amount l.refunded amount)
      else .ok { l with refunded := total }

/-- What is left to refund. -/
def refundable (l : Ledger) : Outcome Decimal :=
  match l.amount.sub? l.refunded with
  | some d => .ok d
  | none => .error (.overflowed .subtraction)

/-- Whether everything has been refunded. -/
def isFullyRefunded (l : Ledger) : Bool :=
  l.refunded ≈ l.amount

/-- Whether something, but not everything, has been refunded. -/
def isPartiallyRefunded (l : Ledger) : Bool :=
  Decimal.zero < l.refunded ∧ l.refunded < l.amount

/-- Whether anything is left to refund. -/
def isRefundable (l : Ledger) : Bool :=
  l.refunded < l.amount

/-- Whether the payment is for this amount. -/
def isFor (l : Ledger) (amount : Decimal) : Bool :=
  l.amount ≈ amount

/-- The same ledger with its amounts at their least scale. Two ledgers say the same when these are
equal. -/
def normalize (l : Ledger) : Ledger :=
  { l with amount := l.amount.normalize, refunded := l.refunded.normalize }

/-- Rebuilds a ledger from an amount, a sum refunded and a currency. -/
def load (amount refunded : Decimal) (currency : Option String) : Outcome Ledger := do
  let ledger ← inCurrency amount (currency.getD defaultCurrency)
  if refunded.isZero then .ok ledger else ledger.refund refunded

/-- Ledgers in JSON. -/
def codec : Json.Codec Ledger :=
  .record
    (.cons (.required "amount" Decimal.codec Ledger.amount) <|
      .cons (.defaulted "refunded_amount" Decimal.codec Ledger.refunded Decimal.zero) <|
      .cons (.defaulted "currency" Json.Codec.text.optional (fun l => some l.currency) none) .nil)
    fun (amount, refunded, currency, ()) =>
      match load amount refunded currency with
      | .ok l => .ok l
      | .error (.refused e) => .error (.refused e.message)
      | .error (.overflowed o) => .error (.refused o.message)

end Ledger

end Payments
