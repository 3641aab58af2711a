import Payments.Gateway.Client

/-!
# Payments.Rehearsal.Server -- a gateway that follows a script

The server listens at one address. It answers its first request with the first reply of its script,
and so on; when the script is used up it hangs up. Requests to other addresses reach nobody.
-/

namespace Payments.Rehearsal

open Gateway

/-- What the server does with a request. -/
inductive Reply where
  | response (r : HttpResponse)
  /-- The connection is closed without a response. -/
  | hangUp

/-- A server with the replies that are left and the requests it has received. -/
structure Server where
  origin : String
  script : List Reply
  received : List HttpRequest
  /-- The first random number; the keys of cancel orders count on from it. -/
  seed : Nat
  keys : Nat

namespace Server

/-- Sends a request to the server. -/
def exchange (r : HttpRequest) : StateM Server (Except TransportError HttpResponse) := do
  let s ← get
  if r.url.origin ≠ s.origin then return .error (.unanswered r.url)
  else
    set { s with received := s.received ++ [r], script := s.script.drop 1 }
    match s.script.head? with
    | some (.response response) =>
      if response.isFinal then return .ok response else return .error (.unanswered r.url)
    | some .hangUp | none => return .error (.unanswered r.url)

/-- The transport to the server. Pauses take no time. -/
def transport : Transport (StateM Server) where
  exchange := exchange
  pause _ := return ()

/-- A client asks for a payment. -/
def lookup (settings : GatewaySettings) (paymentKey : String) :
    StateM Server (Except GatewayError PaymentAnswer) :=
  Client.lookup transport settings paymentKey

/-- A client orders a cancellation, under a key of its own. -/
def cancel (settings : GatewaySettings) (paymentKey : String) (order : CancelOrder) :
    StateM Server (Except GatewayError CancelAnswer) := do
  let s ← get
  set { s with keys := s.keys + 1 }
  Client.cancel transport settings paymentKey (Text.uuid (s.seed + s.keys + 1)) order

end Server

end Payments.Rehearsal
