import Payments.Url

/-!
# Payments.Gateway.Exchange -- requests to a server and what comes back

A transport sends a request and gives back the response, or says that there was none. A response
with an error status is a response. A request whose address is unusable is never sent.
-/

namespace Payments.Gateway

/-- What a request asks the server to do. -/
inductive Method where
  | get
  | post
deriving DecidableEq, Repr

/-- The name of a method. -/
def Method.name : Method → String
  | .get => "GET"
  | .post => "POST"

/-- A request. -/
structure HttpRequest where
  method : Method
  url : Url
  authorization : String
  /-- The key that lets the server recognise a request that is sent again. -/
  idempotencyKey : Option String
  /-- The JSON text that is sent along. -/
  body : Option String
  /-- The milliseconds in which the server has to be reached. -/
  connectTimeout : Nat
  /-- The milliseconds in which the whole response has to be there. -/
  readTimeout : Nat
deriving DecidableEq, Repr

namespace HttpRequest

/-- The names and values of the request's headers. -/
def headers (r : HttpRequest) : List (String × String) :=
  [("Authorization", r.authorization)] ++
    (r.idempotencyKey.map fun key => ("Idempotency-Key", key)).toList ++
    (r.body.map fun _ => ("Content-Type", "application/json")).toList

/-- The value of a header. -/
def header? (r : HttpRequest) (name : String) : Option String :=
  r.headers.lookup name

end HttpRequest

/-- A response. -/
structure HttpResponse where
  status : Nat
  body : List UInt8
deriving DecidableEq, Repr

namespace HttpResponse

/-- Whether this is the response, and not word in the meantime that it will follow. -/
def isFinal (r : HttpResponse) : Bool :=
  r.status = 101 || (200 ≤ r.status && r.status < 1000)

/-- Whether the response says that the request succeeded. -/
def isSuccess (r : HttpResponse) : Bool :=
  200 ≤ r.status && r.status < 300

/-- What the response says; with the status 204 it says nothing. -/
def content (r : HttpResponse) : List UInt8 :=
  if r.status = 204 then [] else r.body

end HttpResponse

/-- Why there is no response. -/
inductive TransportError where
  /-- The text given as an address is none. -/
  | noAddress
  /-- Requests cannot be sent to addresses of this kind. -/
  | unsuitableAddress (url : Url)
  /-- The server was not reached, or it did not answer. -/
  | unanswered (url : Url)
deriving DecidableEq, Repr

/-- The error in words. -/
def TransportError.message : TransportError → String
  | .noAddress => "builder error"
  | .unsuitableAddress url => s!"builder error for url ({url.text})"
  | .unanswered url => s!"error sending request for url ({url.text})"

/-- Decodes the percent signs of a part of an address. -/
def decoded? (part : String) : Option String :=
  Text.ofUtf8? (Text.percentDecode part.toList)

/-- The address without the user and the password, if these can be decoded. A password behind a user
who can be decoded is dropped in any case. -/
def withoutUser (url : Url) : Url :=
  if (decoded? url.user).isSome && (!url.user.isEmpty || (url.password.bind decoded?).isSome) then
    { url with user := "", password := none }
  else url

/-- The most bytes that the address of a request can have. -/
def maxAddressBytes : Nat := 65534

/-- Whether a host has characters that requests do not name. -/
def isUnnameable (host : String) : Bool :=
  host.toList.any fun c => c = '"' || c.toNat = 0x60 || c = '\x7b' || c = '\x7d'

/-- Whether requests can be sent to an address. -/
def isSuitable (url : Url) : Bool :=
  (url.scheme = "http" || url.scheme = "https") && !(url.host.any isUnnameable) &&
    url.text.utf8ByteSize ≤ maxAddressBytes

/-- The address that a text spells, if requests can be sent there. -/
def addressOf (s : String) : Except TransportError Url :=
  match Url.parse? s with
  | none => .error .noAddress
  | some url =>
    let url := withoutUser url
    if isSuitable url then .ok url else .error (.unsuitableAddress url)

/-- What sends requests, and waits. -/
structure Transport (m : Type → Type) where
  exchange : HttpRequest → m (Except TransportError HttpResponse)
  /-- Lets a number of milliseconds pass. -/
  pause : Nat → m Unit

end Payments.Gateway
