import Payments.Json.Codec

/-!
# Payments.Status -- where a payment stands

A payment waits for verification, is verified or not, and may then be refunded, in part or in full:

    PENDING -> VERIFYING -> VERIFIED | VERIFICATION_FAILED
    VERIFIED | PARTIALLY_REFUNDED -> REFUNDING -> REFUNDED | PARTIALLY_REFUNDED | REFUND_FAILED

From any status that is not final it may move to CANCELLED. `Status.Leads` is this graph. The
outcome of the verification step is kept beside the status, because the status moves on.
-/

namespace Payments

/-- The status of a payment. -/
inductive Status where
  | pending
  | verifying
  | verified
  | verificationFailed
  | refunding
  | partiallyRefunded
  | refunded
  | refundFailed
  | cancelled
deriving DecidableEq, Repr

namespace Status

/-- Every status, in the order of a payment's life. -/
def all : List Status :=
  [.pending, .verifying, .verified, .verificationFailed, .refunding, .partiallyRefunded, .refunded,
    .refundFailed, .cancelled]

/-- The name used in messages. -/
def name : Status → String
  | .pending => "PENDING"
  | .verifying => "VERIFYING"
  | .verified => "VERIFIED"
  | .verificationFailed => "VERIFICATION_FAILED"
  | .refunding => "REFUNDING"
  | .partiallyRefunded => "PARTIALLY_REFUNDED"
  | .refunded => "REFUNDED"
  | .refundFailed => "REFUND_FAILED"
  | .cancelled => "CANCELLED"

/-- A few words for a human reader. -/
def description : Status → String
  | .pending => "awaiting verification"
  | .verifying => "verification in progress"
  | .verified => "verified"
  | .verificationFailed => "verification failed"
  | .refunding => "refund in progress"
  | .partiallyRefunded => "partially refunded"
  | .refunded => "fully refunded"
  | .refundFailed => "refund failed"
  | .cancelled => "cancelled"

/-- Whether a refund may start from here. -/
def isRefundable : Status → Bool
  | .verified | .partiallyRefunded => true
  | _ => false

/-- Whether no further step is accepted. -/
def isFinal : Status → Bool
  | .verificationFailed | .refunded | .refundFailed | .cancelled => true
  | _ => false

/-- The arrows of the status graph. -/
inductive Leads : Status → Status → Prop where
  | startVerification : Leads .pending .verifying
  | verify : Leads .verifying .verified
  | failVerification : Leads .verifying .verificationFailed
  | startRefund {s : Status} : s.isRefundable = true → Leads s .refunding
  | refundAll : Leads .refunding .refunded
  | refundPart : Leads .refunding .partiallyRefunded
  | failRefund : Leads .refunding .refundFailed
  | cancel {s : Status} : s.isFinal = false → Leads s .cancelled

/-- Each status under its name. -/
def table : List (String × Status) :=
  all.map fun s => (s.name, s)

/-- A status is written as its name. -/
def codec : Json.Codec Status :=
  .name table none name

end Status

/-- The outcome of the verification step. -/
inductive Verification where
  | pending
  | success
  | failed
deriving DecidableEq, Repr

namespace Verification

/-- The name used in messages. -/
def name : Verification → String
  | .pending => "PENDING"
  | .success => "SUCCESS"
  | .failed => "FAILED"

/-- An outcome is written as its name. -/
def codec : Json.Codec Verification :=
  .name ([.pending, .success, .failed].map fun v => (v.name, v)) none name

end Verification

end Payments
