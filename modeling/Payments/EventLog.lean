import Payments.Event

/-!
# Payments.EventLog -- announcements as lines of a log

Every announcement becomes one line: an envelope with the topic, the order as key, an id of its own,
the time, and the announcement itself as payload, whose entries stand in the order of their names.
The relay writes the envelopes one after another and pushes each one through before it takes the
next. A line that cannot be written is given up, and the others are not affected.
-/

namespace Payments

/-- Where announcements go, and who makes them. -/
structure Topics where
  refunded : String
  refundFailed : String
  source : String
deriving DecidableEq, Repr

/-- The topics of a service that was told nothing else. -/
def Topics.default : Topics :=
  ⟨"payment-refunded", "payment-refund-failed", "payment-service"⟩

/-- The kind of an announcement. -/
inductive EventType where
  | refunded
  | refundFailed
deriving DecidableEq, Repr

namespace EventType

/-- The name used in messages. -/
def name : EventType → String
  | .refunded => "PAYMENT_REFUNDED"
  | .refundFailed => "PAYMENT_REFUND_FAILED"

/-- A kind is written as its name. -/
def codec : Json.Codec EventType :=
  .name ([.refunded, .refundFailed].map fun t => (t.name, t)) none name

end EventType

/-- One line of the log. -/
structure Envelope where
  topic : String
  key : String
  eventId : String
  eventType : EventType
  source : String
  occurredAt : Instant
  payload : Json.Value

namespace Envelope

/-- How deep a payload may be nested. -/
def depthLimit : Nat := 126

/-- A value with the entries of an object in the order of their names. -/
def inOrder : Json.Value → Json.Value
  | .object entries => Json.Value.sortedObject entries
  | other => other

/-- The envelope of an announcement that is made at an instant. -/
def of (topics : Topics) (eventId : String) (at_ : Instant) (e : Event) : Envelope where
  topic := match e with
    | .refunded _ => topics.refunded
    | .refundFailed _ => topics.refundFailed
  key := e.orderId
  eventId := eventId
  eventType := match e with
    | .refunded _ => .refunded
    | .refundFailed _ => .refundFailed
  source := topics.source
  occurredAt := at_
  payload := inOrder e.write

/-- Envelopes in JSON. -/
def codec : Json.Codec Envelope :=
  .record
    (.cons (.required "topic" .text Envelope.topic) <|
      .cons (.required "key" .text Envelope.key) <|
      .cons (.required "eventId" .text Envelope.eventId) <|
      .cons (.required "eventType" EventType.codec Envelope.eventType) <|
      .cons (.required "source" .text Envelope.source) <|
      .cons (.required "occurredAt" Instant.codec Envelope.occurredAt) <|
      .cons (.required "payload" (.any depthLimit) Envelope.payload) .nil)
    fun (topic, key, eventId, eventType, source, occurredAt, payload, ()) =>
      .ok { topic, key, eventId, eventType, source, occurredAt, payload }

/-- The line of an envelope, without the line feed. -/
def line (e : Envelope) : String :=
  codec.render e

end Envelope

/-! ## The relay -/

/-- Where lines are written. Both steps may fail, with a text that says why. -/
structure Sink (m : Type → Type) where
  write : String → m (Except String Unit)
  flush : m (Except String Unit)

namespace Relay

variable {m : Type → Type} [Monad m]

/-- Writes one envelope and pushes it through: whether that succeeded. -/
def deliver (sink : Sink m) (e : Envelope) : m Bool := do
  match ← sink.write (e.line ++ "\n") with
  | .error _ => return false
  | .ok () =>
    match ← sink.flush with
    | .error _ => return false
    | .ok () => return true

/-- Takes one more envelope, counting those that were delivered. -/
def take (sink : Sink m) (delivered : Nat) (e : Envelope) : m Nat := do
  if ← deliver sink e then return delivered + 1 else return delivered

/-- Ends the relay: the number of envelopes delivered. -/
def finish (sink : Sink m) (delivered : Nat) : m (Except PaymentError Nat) := do
  match ← sink.flush with
  | .ok () => return .ok delivered
  | .error reason => return .error (.inputOutput reason)

/-- Writes a list of envelopes from first to last. -/
def run (sink : Sink m) (es : List Envelope) : m (Except PaymentError Nat) := do
  let delivered ← es.foldlM (take sink) 0
  finish sink delivered

/-- What a publisher reports when nobody takes its envelopes any more. -/
def stopped : PaymentError :=
  .internal "event relay has stopped"

end Relay

end Payments
