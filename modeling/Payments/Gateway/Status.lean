import Payments.Json.Codec

/-!
# Payments.Gateway.Status -- how the gateway sees a payment

The gateway names the state of a payment on its side. Names that are not known here are read as
`unknown`, so that a new one does not make a message unreadable.
-/

namespace Payments.Gateway

/-- The state of a payment at the gateway. -/
inductive Status where
  | ready
  | inProgress
  | waitingForDeposit
  | done
  | canceled
  | partialCanceled
  | aborted
  | expired
  | unknown
deriving DecidableEq, Repr

namespace Status

/-- The name used in messages. -/
def name : Status → String
  | .ready => "READY"
  | .inProgress => "IN_PROGRESS"
  | .waitingForDeposit => "WAITING_FOR_DEPOSIT"
  | .done => "DONE"
  | .canceled => "CANCELED"
  | .partialCanceled => "PARTIAL_CANCELED"
  | .aborted => "ABORTED"
  | .expired => "EXPIRED"
  | .unknown => "UNKNOWN"

/-- The states that have a name of their own. -/
def named : List Status :=
  [.ready, .inProgress, .waitingForDeposit, .done, .canceled, .partialCanceled, .aborted, .expired]

/-- Whether the money has been taken. -/
def isDone : Status → Bool
  | .done => true
  | _ => false

/-- Whether the money has been given back, wholly or in part. -/
def isCanceled : Status → Bool
  | .canceled | .partialCanceled => true
  | _ => false

/-- Whether the payment came to nothing. -/
def isFailed : Status → Bool
  | .aborted | .expired => true
  | _ => false

/-- A state is written as its name. -/
def codec : Json.Codec Status :=
  .name (named.map fun s => (s.name, s)) (some .unknown) name

end Status

end Payments.Gateway
