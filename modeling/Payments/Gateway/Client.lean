import Payments.Error
import Payments.Gateway.Exchange
import Payments.Gateway.Message
import Payments.Settings
import Payments.Text.Base64
import Payments.Text.Uuid

/-!
# Payments.Gateway.Client -- the gateway's interface over HTTP

Looking a payment up is a `GET` of its address, cancelling it a `POST` to the address below that. A
request that gets no response is sent again, after a pause that grows, until the number of attempts
is used up; the first response of any status ends that. All attempts of one cancel order carry the
same idempotency key, so that an order which is sent twice is carried out once.
-/

namespace Payments.Gateway.Client

/-- The text of the address of a payment. -/
def lookupAddress (s : GatewaySettings) (paymentKey : String) : String :=
  s.baseUrl ++ "/v1/payments/" ++ paymentKey

/-- The text of the address for cancelling a payment. -/
def cancelAddress (s : GatewaySettings) (paymentKey : String) : String :=
  s.baseUrl ++ "/v1/payments/" ++ paymentKey ++ "/cancel"

/-- The header that names the secret key as user, without a password. -/
def authorization (s : GatewaySettings) : String :=
  "Basic " ++ String.ofList (Text.base64 (Text.utf8 (s.secretKey ++ ":")))

/-- The request that looks a payment up. -/
def lookupRequest (s : GatewaySettings) (paymentKey : String) :
    Except TransportError HttpRequest :=
  (addressOf (lookupAddress s paymentKey)).map fun url =>
    { method := .get, url, authorization := authorization s
      idempotencyKey := none
      body := none
      connectTimeout := s.connectTimeout
      readTimeout := s.readTimeout }

/-- The request that cancels a payment. -/
def cancelRequest (s : GatewaySettings) (paymentKey idempotencyKey : String) (order : CancelOrder) :
    Except TransportError HttpRequest :=
  (addressOf (cancelAddress s paymentKey)).map fun url =>
    { method := .post, url, authorization := authorization s
      idempotencyKey := some idempotencyKey
      body := some (CancelOrder.codec.render order)
      connectTimeout := s.connectTimeout
      readTimeout := s.readTimeout }

/-! ## Sending -/

section

variable {m : Type → Type} [Monad m]

/-- One attempt. A request without a usable address fails at once. -/
def attempt (t : Transport m) :
    Except TransportError HttpRequest → m (Except TransportError HttpResponse)
  | .ok r => t.exchange r
  | .error e => return .error e

/-- Sends a request that may be sent again `left` times after attempt number `number`. -/
def sendFrom (t : Transport m) (s : GatewaySettings) (r : Except TransportError HttpRequest) :
    Nat → Nat → m (Except TransportError HttpResponse)
  | 0, _ => attempt t r
  | left + 1, number => do
    match ← attempt t r with
    | .ok response => return .ok response
    | .error _ => do
      t.pause (s.backoff number)
      sendFrom t s r left (number + 1)

/-- Sends a request, again if need be. It is sent once at least. -/
def send (t : Transport m) (s : GatewaySettings) (r : Except TransportError HttpRequest) :
    m (Except TransportError HttpResponse) :=
  sendFrom t s r (s.maxAttempts - 1) 1

end

/-! ## Responses -/

/-- What a body of JSON says. -/
def decodeBody {α : Type} (codec : Json.Codec α) (body : List UInt8) : Option α :=
  (codec.parseBytes body).toOption

/-- What came of a request: the decoded body, or the error that the status stands for. -/
def result {α : Type} (codec : Json.Codec α) (ofStatus : Nat → GatewayError) :
    Except TransportError HttpResponse → Except GatewayError α
  | .error e => .error (.transport e.message)
  | .ok response =>
    if !response.isSuccess then .error (ofStatus response.status)
    else
      match decodeBody codec response.content with
      | some a => .ok a
      | none => .error (.malformedResponse "error decoding response body")

section

variable {m : Type → Type} [Monad m]

/-- Asks the gateway for its account of a payment. -/
def lookup (t : Transport m) (s : GatewaySettings) (paymentKey : String) :
    m (Except GatewayError PaymentAnswer) := do
  let response ← send t s (lookupRequest s paymentKey)
  return result PaymentAnswer.codec .ofLookupStatus response

/-- Tells the gateway to cancel a payment. -/
def cancel (t : Transport m) (s : GatewaySettings) (paymentKey idempotencyKey : String)
    (order : CancelOrder) : m (Except GatewayError CancelAnswer) := do
  let response ← send t s (cancelRequest s paymentKey idempotencyKey order)
  return result CancelAnswer.codec .ofCancelStatus response

end

end Payments.Gateway.Client
