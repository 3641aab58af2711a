import Payments.Calendar.Codec
import Payments.Decimal.Codec

/-!
# Payments.Command -- what the service is asked to do

Commands arrive as JSON objects whose `type` says which command it is. The whole object is read
before its fields are looked at, with one exception: the type is judged as soon as it is met. So an
unknown type is reported even if the text is broken further on, while a text that is broken anywhere
is reported as broken before any missing or wrong field is.
-/

namespace Payments

/-- Register a payment that was made at the gateway, after checking it there. -/
structure Registration where
  orderId : String
  provider : String
  gatewayPaymentId : String
  paymentKey : String
  expectedAmount : Decimal
  payerCompanyId : String
  payerName : String
  payerEmail : Option String
  payerPhone : Option String
  payeeCompanyId : String
  payeeName : String
deriving DecidableEq

/-- Registrations in JSON. -/
def Registration.codec : Json.Codec Registration :=
  .record
    (.cons (.required "orderId" .text Registration.orderId) <|
      .cons (.required "pgProvider" .text Registration.provider) <|
      .cons (.required "pgPaymentId" .text Registration.gatewayPaymentId) <|
      .cons (.required "pgPaymentKey" .text Registration.paymentKey) <|
      .cons (.required "expectedAmount" Decimal.codec Registration.expectedAmount) <|
      .cons (.required "payerCompanyId" .text Registration.payerCompanyId) <|
      .cons (.required "payerName" .text Registration.payerName) <|
      .cons (.defaulted "payerEmail" Json.Codec.text.optional Registration.payerEmail none) <|
      .cons (.defaulted "payerPhone" Json.Codec.text.optional Registration.payerPhone none) <|
      .cons (.required "payeeCompanyId" .text Registration.payeeCompanyId) <|
      .cons (.required "payeeName" .text Registration.payeeName) .nil)
    fun (orderId, provider, gatewayPaymentId, paymentKey, expectedAmount, payerCompanyId, payerName,
        payerEmail, payerPhone, payeeCompanyId, payeeName, ()) =>
      .ok
        { orderId, provider, gatewayPaymentId, paymentKey, expectedAmount, payerCompanyId,
          payerName, payerEmail, payerPhone, payeeCompanyId, payeeName }

/-- Give back what was paid for an order. -/
structure RefundRequest where
  paymentId : String
  orderId : String
  reason : String
  requestedAt : Option LocalTime
deriving DecidableEq

/-- Refund requests in JSON. -/
def RefundRequest.codec : Json.Codec RefundRequest :=
  .record
    (.cons (.required "paymentId" .text RefundRequest.paymentId) <|
      .cons (.required "orderId" .text RefundRequest.orderId) <|
      .cons (.required "refundReason" .text RefundRequest.reason) <|
      .cons (.defaulted "requestedAt" LocalTime.codec.optional RefundRequest.requestedAt none) .nil)
    fun (paymentId, orderId, reason, requestedAt, ()) =>
      .ok { paymentId, orderId, reason, requestedAt }

/-- A command. -/
inductive Command where
  | register (r : Registration)
  | refund (r : RefundRequest)
deriving DecidableEq

namespace Command

/-- Which command it is. -/
inductive Kind where
  | register
  | refund
deriving DecidableEq

/-- The types that a command may have. -/
def kinds : List (String × Kind) :=
  [("verify_payment", .register), ("refund_requested", .refund)]

/-- Reads the type of a command. -/
def readKind : Json.Document → Except Json.Fault Kind
  | .text s => Json.Codec.lookupName kinds none s
  | d => .error d.refusal

/-- How deep values may be nested inside a command. -/
def depthLimit : Nat := 126

/-- Refuses a value that is broken, nested too deep or holds what cannot be represented. -/
def checkSound (d : Json.Document) : Except Json.Fault Unit :=
  (Json.Value.ofDocument depthLimit d).map fun _ => ()

/-- Takes the entries of a command: its type, and its other entries in order. -/
def collect (kind : Option Kind) (others : List (Json.Document × Json.Document)) :
    List (Json.Document × Json.Document) →
      Except Json.Fault (Option Kind × List (Json.Document × Json.Document))
  | [] => .ok (kind, others.reverse)
  | (.text "type", value) :: rest =>
    if kind.isSome then .error (.repeated "type")
    else do
      let k ← readKind value
      collect (some k) others rest
  | (.text key, value) :: rest => do
    checkSound value
    collect kind ((.text key, value) :: others) rest
  | _ :: _ => .error .malformed

/-- Reads the contents of a command from a document that is known to be sound. What is then found
wrong can only be a matter of shape. -/
def readContents (kind : Kind) (d : Json.Document) : Except Json.Fault Command :=
  let contents := match kind with
    | .register => (Registration.codec.read d).map Command.register
    | .refund => (RefundRequest.codec.read d).map Command.refund
  match contents with
  | .error .malformed => .error .mismatch
  | other => other

/-- Reads a command. A list is read as the type followed by the contents. -/
def read : Json.Document → Except Json.Fault Command
  | .object entries closed => do
    let (kind, others) ← collect none [] entries
    if !closed then .error .malformed
    else
      match kind with
      | none => .error (.missing "type")
      | some k => readContents k (.object others true)
  | .list [] closed => .error (if closed then .missing "type" else .malformed)
  | .list (first :: rest) closed => do
    let kind ← readKind first
    rest.forM checkSound
    if !closed then .error .malformed else readContents kind (.list rest true)
  | d => .error d.refusal

/-- A command as a JSON value: its type first, then its contents. -/
def write (c : Command) : Json.Value :=
  let typed (kind : String) (contents : Json.Value) : Json.Value :=
    match contents with
    | .object entries => .object (("type", .text kind) :: entries)
    | other => other
  match c with
  | .register r => typed "verify_payment" (Registration.codec.write r)
  | .refund r => typed "refund_requested" (RefundRequest.codec.write r)

/-- Commands in JSON. -/
def codec : Json.Codec Command where
  write := write
  read := read

end Command

end Payments
