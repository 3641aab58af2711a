import Payments.Error
import Payments.EventLog
import Payments.Number.Power

/-!
# Payments.Settings -- what can be set from outside

Settings are looked up by name and have defaults; a blank value counts as not set. Blanks around a
value do not matter, except in the secret key, which is taken as it is. A number that cannot be read
is reported with the name and the value as they were given, and of several such numbers the first
one counts.
-/

namespace Payments

/-! ## Numbers -/

/-- Why a text is no number. -/
inductive CountFault where
  | noDigits
  | invalidDigit
  | tooLarge
deriving DecidableEq, Repr

/-- The reason in words. -/
def CountFault.message : CountFault → String
  | noDigits => "cannot parse integer from empty string"
  | invalidDigit => "invalid digit found in string"
  | tooLarge => "number too large to fit in target type"

/-- Reads digits behind a number already read; the first character that is no digit, or that makes
the number reach the limit, decides. -/
def readDigits (limit : Nat) : Nat → List Char → Except CountFault Nat
  | n, [] => .ok n
  | n, c :: cs =>
    if !c.isDigit then .error .invalidDigit
    else
      let n := n * 10 + (c.toNat - '0'.toNat)
      if n < limit then readDigits limit n cs else .error .tooLarge

/-- Reads a number below a limit: digits, perhaps behind a plus sign. -/
def readCount (limit : Nat) : List Char → Except CountFault Nat
  | [] => .error .noDigits
  | ['+'] => .error .invalidDigit
  | '+' :: cs => readDigits limit 0 cs
  | cs => readDigits limit 0 cs

/-! ## The gateway client -/

/-- Settings of the gateway client. Times are in milliseconds. -/
structure GatewaySettings where
  baseUrl : String
  secretKey : String
  connectTimeout : Nat
  readTimeout : Nat
  /-- How often a request is sent at most, the first time included. -/
  maxAttempts : Nat
  retryBackoff : Nat
  maxRetryBackoff : Nat
deriving DecidableEq, Repr

namespace GatewaySettings

/-- The settings of a client that was told nothing else. -/
def default : GatewaySettings where
  baseUrl := "https://api.tosspayments.com"
  secretKey := ""
  connectTimeout := 10000
  readTimeout := 30000
  maxAttempts := 3
  retryBackoff := 200
  maxRetryBackoff := 2000

/-- The greatest factor by which a pause grows. -/
def maxFactor : Nat := twoTo 32 - 1

/-- `2 ^ n`, or `maxFactor` if that is less. -/
def factor (n : Nat) : Nat :=
  if n < 32 then twoTo n else maxFactor

/-- The pause before a retry, counted from one: twice as long each time, up to the longest pause. -/
def backoff (s : GatewaySettings) (retry : Nat) : Nat :=
  min (s.retryBackoff * factor (retry - 1)) s.maxRetryBackoff

end GatewaySettings

/-! ## All settings -/

/-- Settings of the program. -/
structure Settings where
  gateway : GatewaySettings
  topics : Topics
deriving DecidableEq, Repr

namespace Settings

/-- The value under a name without blanks around it, if there is one that is not blank. -/
def textOf (lookup : String → Option String) (name : String) : Option String :=
  ((lookup name).map Text.trim).filter fun value => !value.isEmpty

/-- The text under a name. -/
def text (lookup : String → Option String) (name default : String) : String :=
  (textOf lookup name).getD default

/-- The number under a name, which has to be below a limit. -/
def count (lookup : String → Option String) (limit : Nat) (name : String) (default : Nat) :
    Except PaymentError Nat :=
  match lookup name with
  | none => .ok default
  | some raw =>
    if Text.isBlankText raw then .ok default
    else
      match readCount limit (Text.trim raw).toList with
      | .ok n => .ok n
      | .error fault => .error (.settings s!"{name}={raw}: {fault.message}")

/-- The text without slashes at its end. -/
def dropSlashes (s : String) : String :=
  String.ofList (s.toList.reverse.dropWhile (· = '/')).reverse

/-- The settings that the looked-up values make. -/
def ofLookup (lookup : String → Option String) : Except PaymentError Settings := do
  let defaults := GatewaySettings.default
  let baseUrl := dropSlashes (text lookup "TOSS_BASE_URL" defaults.baseUrl)
  let secretKey := (lookup "TOSS_SECRET_KEY").getD defaults.secretKey
  let word := twoTo 64
  let connectTimeout ← count lookup word "PG_CONNECT_TIMEOUT_MS" defaults.connectTimeout
  let readTimeout ← count lookup word "PG_READ_TIMEOUT_MS" defaults.readTimeout
  let maxAttempts ← count lookup (twoTo 32) "PG_MAX_ATTEMPTS" defaults.maxAttempts
  let retryBackoff ← count lookup word "PG_RETRY_BACKOFF_MS" defaults.retryBackoff
  let maxRetryBackoff ← count lookup word "PG_MAX_RETRY_BACKOFF_MS" defaults.maxRetryBackoff
  if maxAttempts = 0 then .error (.settings "PG_MAX_ATTEMPTS must be at least 1")
  else
    .ok
      { gateway :=
          { baseUrl, secretKey, connectTimeout, readTimeout, maxAttempts, retryBackoff,
            maxRetryBackoff }
        topics :=
          { refunded := text lookup "TOPIC_PAYMENT_REFUNDED" Topics.default.refunded
            refundFailed := text lookup "TOPIC_PAYMENT_REFUND_FAILED" Topics.default.refundFailed
            source := text lookup "EVENT_SOURCE" Topics.default.source } }

end Settings

end Payments
