import Payments.Gateway.Client
import Payments.Proofs.Outcome

/-!
# Payments.Proofs.Gateway.Retrying -- how often a request is sent, and what comes of it

A `Line` is a transport with a script: for each request that is sent, one after another, it says
what comes of it, a response or the reason why there is none. The line keeps what the client does,
so that the order of requests and pauses can be told.

The client goes on as long as no response came and attempts are left, and nothing else plays a part
(`Client.sendFrom_run`). So what it does is told by a number (`attempts`), which is the position of
the first response, or that of the last attempt allowed if it comes first. The status of a response
is looked at afterwards, when nothing is sent any more.
-/

namespace Payments

/-! ## Pauses -/

namespace GatewaySettings

variable (s : GatewaySettings)

/-- The factor is a power of two, cut off where 32 bits end. -/
theorem factor_eq_min (n : Nat) : factor n = min (twoTo n) maxFactor := by
  unfold factor
  split
  · next h =>
    have hle : twoTo n ≤ twoTo 31 := Nat.pow_le_pow_right (by decide) (by omega)
    exact (Nat.min_eq_left (Nat.le_trans hle (by decide))).symm
  · next h =>
    have hle : twoTo 32 ≤ twoTo n := Nat.pow_le_pow_right (by decide) (by omega)
    exact (Nat.min_eq_right (Nat.le_trans (by decide) hle)).symm

/-- Pauses never get shorter. -/
theorem backoff_mono {m n : Nat} (h : m ≤ n) : s.backoff m ≤ s.backoff n := by
  have hpower : twoTo (m - 1) ≤ twoTo (n - 1) := Nat.pow_le_pow_right (by decide) (by omega)
  have hfactor : factor (m - 1) ≤ factor (n - 1) := by
    rw [factor_eq_min, factor_eq_min]
    omega
  have hproduct := Nat.mul_le_mul_left s.retryBackoff hfactor
  unfold backoff
  omega

theorem backoff_le (n : Nat) : s.backoff n ≤ s.maxRetryBackoff :=
  Nat.min_le_right _ _

/-- It makes no difference if the product is cut off at some length of time, as long as the longest
pause is not longer. -/
theorem backoff_eq_saturated {limit : Nat} (h : s.maxRetryBackoff ≤ limit) (n : Nat) :
    s.backoff n =
      min (min (s.retryBackoff * min (twoTo (n - 1)) (twoTo 32 - 1)) limit)
        s.maxRetryBackoff := by
  rw [backoff, factor_eq_min, Nat.min_assoc, Nat.min_eq_right h]
  rfl

end GatewaySettings

namespace Gateway

/-! ## A line with a script -/

/-- What a client does on the line to the server. -/
inductive Act where
  | sent (r : HttpRequest)
  | paused (milliseconds : Nat)
deriving DecidableEq

/-- The request, if one was sent. -/
def Act.request? : Act → Option HttpRequest
  | sent r => some r
  | paused _ => none

/-- What will come of the requests, one after another, and what the client has done so far. -/
structure Line where
  script : Nat → Except TransportError HttpResponse
  acts : List Act

namespace Line

/-- Sends a request. The next outcome of the script is what comes of it. -/
def exchange (r : HttpRequest) : StateM Line (Except TransportError HttpResponse) := do
  let l ← get
  set (Line.mk (fun n => l.script (n + 1)) (l.acts ++ [.sent r]))
  return l.script 0

/-- The line as a transport. -/
def transport : Transport (StateM Line) where
  exchange := exchange
  pause milliseconds := modify fun l => { l with acts := l.acts ++ [.paused milliseconds] }

/-- The line after some outcomes and some acts. -/
def after (l : Line) (outcomes : Nat) (acts : List Act) : Line :=
  ⟨fun n => l.script (n + outcomes), l.acts ++ acts⟩

theorem after_after (l : Line) (m n : Nat) (as bs : List Act) :
    (l.after m as).after n bs = l.after (n + m) (as ++ bs) := by
  simp only [after, List.append_assoc, Nat.add_assoc]

end Line

variable {s : GatewaySettings} {script : Nat → Except TransportError HttpResponse}

/-- The pause before a retry, and the retry. -/
def retry (s : GatewaySettings) (r : HttpRequest) (number : Nat) : List Act :=
  [.paused (s.backoff number), .sent r]

/-- What a client does that sends a request, and then sends it again `count` times, from retry
number `first` on. -/
def attemptsFrom (s : GatewaySettings) (r : HttpRequest) (first count : Nat) : List Act :=
  .sent r :: (List.range' first count).flatMap (retry s r)

/-- What a client does that sends a request `count` times. -/
def attempts (s : GatewaySettings) (r : HttpRequest) (count : Nat) : List Act :=
  attemptsFrom s r 1 (count - 1)

/-- The request is sent as often as there are attempts, always as it is. -/
theorem requests_attempts (r : HttpRequest) {count : Nat} (h : 0 < count) :
    (attempts s r count).filterMap Act.request? = List.replicate count r := by
  have hretries (first n : Nat) :
      ((List.range' first n).flatMap (retry s r)).filterMap Act.request? =
        List.replicate n r := by
    induction n generalizing first with
    | zero => rfl
    | succ n ih =>
      rw [List.range'_succ, List.flatMap_cons, List.filterMap_append, ih, List.replicate_succ]
      rfl
  obtain ⟨n, rfl⟩ := Nat.exists_eq_succ_of_ne_zero (Nat.ne_of_gt h)
  rw [attempts, attemptsFrom, List.filterMap_cons, hretries, List.replicate_succ]
  rfl

/-! ## Sending -/

/-- The attempt with index `k` is the last one: it gets the first response, or there is none and
`left` retries are used up. -/
structure IsLast (script : Nat → Except TransportError HttpResponse) (left k : Nat) : Prop where
  le : k ≤ left
  before : ∀ i < k, ∃ e, script i = .error e
  ends : k = left ∨ ∃ response, script k = .ok response

namespace Client

theorem attempt_run (r : HttpRequest) (line : Line) :
    (attempt Line.transport (.ok r)).run line = (line.script 0, line.after 1 [.sent r]) := rfl

/-- A response ends the sending. -/
theorem sendFrom_run_of_ok {r : HttpRequest} {line : Line} {response : HttpResponse}
    (h : line.script 0 = .ok response) (left number : Nat) :
    (sendFrom Line.transport s (.ok r) left number).run line =
      (.ok response, line.after 1 [.sent r]) := by
  cases left with
  | zero => rw [← h]; rfl
  | succ left =>
    rw [sendFrom, StateT.run_bind, attempt_run, h]
    rfl

/-- Without a response there is a pause, and then one retry less is left. -/
theorem sendFrom_run_of_error {r : HttpRequest} {line : Line} {e : TransportError}
    (h : line.script 0 = .error e) (left number : Nat) :
    (sendFrom Line.transport s (.ok r) (left + 1) number).run line =
      (sendFrom Line.transport s (.ok r) left (number + 1)).run
        (line.after 1 [.sent r, .paused (s.backoff number)]) := by
  rw [sendFrom, StateT.run_bind, attempt_run, h]
  show (sendFrom Line.transport s (.ok r) left (number + 1)).run
    ((line.after 1 [.sent r]).after 0 [.paused (s.backoff number)]) = _
  rw [Line.after_after]
  rfl

/-- Sending goes on up to the last attempt, and its outcome is the result. -/
theorem sendFrom_run (r : HttpRequest) {line : Line} {left k : Nat} (h : IsLast line.script left k)
    (number : Nat) :
    (sendFrom Line.transport s (.ok r) left number).run line =
      (line.script k, line.after (k + 1) (attemptsFrom s r number k)) := by
  induction k generalizing left number line with
  | zero =>
    rcases h.ends with rfl | ⟨response, hresponse⟩
    · rfl
    · rw [sendFrom_run_of_ok hresponse, hresponse]
      rfl
  | succ k ih =>
    obtain ⟨e, he⟩ := h.before 0 (Nat.succ_pos k)
    obtain ⟨left, rfl⟩ : ∃ n, left = n + 1 := ⟨left - 1, by have := h.le; omega⟩
    have hrest : IsLast (line.after 1 [.sent r, .paused (s.backoff number)]).script left k :=
      { le := Nat.le_of_succ_le_succ h.le
        before := fun i hi => h.before (i + 1) (Nat.succ_lt_succ hi)
        ends := h.ends.imp_left Nat.succ.inj }
    rw [sendFrom_run_of_error he, ih hrest, Line.after_after]
    rfl

/-- A request that cannot be made is not sent, but there are as many pauses as if it were. -/
theorem sendFrom_run_of_unmade (e : TransportError) (line : Line) (left number : Nat) :
    (sendFrom Line.transport s (.error e) left number).run line =
      (.error e, line.after 0 ((List.range' number left).map fun n => .paused (s.backoff n))) := by
  induction left generalizing number line with
  | zero =>
    show (_, line) = (_, line.after 0 [])
    rw [Line.after, List.append_nil]
    rfl
  | succ left ih =>
    rw [sendFrom]
    show (sendFrom Line.transport s (.error e) left (number + 1)).run
      (line.after 0 [.paused (s.backoff number)]) = _
    rw [ih, Line.after_after]
    rfl

end Client

/-! ## What comes of a request -/

/-- Outcome number `k`, counted from zero, is a response, and none before it is. -/
structure IsFirstResponse (script : Nat → Except TransportError HttpResponse) (k : Nat)
    (response : HttpResponse) : Prop where
  responds : script k = .ok response
  before : ∀ i < k, ∃ e, script i = .error e

theorem firstResponse_or_none (script : Nat → Except TransportError HttpResponse) (n : Nat) :
    (∃ k < n, ∃ response, IsFirstResponse script k response) ∨
      ∀ i < n, ∃ e, script i = .error e := by
  induction n with
  | zero => exact .inr fun i hi => absurd hi (Nat.not_lt_zero i)
  | succ n ih =>
    rcases ih with ⟨k, hk, hfirst⟩ | hnone
    · exact .inl ⟨k, Nat.lt_succ_of_lt hk, hfirst⟩
    · cases hn : script n with
      | ok response => exact .inl ⟨n, Nat.lt_succ_self n, response, hn, hnone⟩
      | error e =>
        refine .inr fun i hi => ?_
        rcases Nat.lt_succ_iff_lt_or_eq.1 hi with hlt | rfl
        · exact hnone i hlt
        · exact ⟨e, hn⟩

/-- What a response is taken for. -/
inductive Classified {α : Type} (codec : Json.Codec α) (ofStatus : Nat → GatewayError)
    (response : HttpResponse) : Except GatewayError α → Prop where
  | decoded {a : α} (hsuccess : response.isSuccess = true)
      (ha : Client.decodeBody codec response.content = some a) :
    Classified codec ofStatus response (.ok a)
  | malformed (hsuccess : response.isSuccess = true)
      (hnone : Client.decodeBody codec response.content = none) :
    Classified codec ofStatus response
      (.error (.malformedResponse "error decoding response body"))
  | refused (hfailure : response.isSuccess = false) :
    Classified codec ofStatus response (.error (ofStatus response.status))

theorem classified_result {α : Type} (codec : Json.Codec α) (ofStatus : Nat → GatewayError)
    (response : HttpResponse) :
    Classified codec ofStatus response (Client.result codec ofStatus (.ok response)) := by
  simp only [Client.result]
  cases hs : response.isSuccess with
  | false => exact .refused hs
  | true =>
    rw [Bool.not_true, if_neg Bool.false_ne_true]
    cases hbody : Client.decodeBody codec response.content with
    | some a => exact .decoded hs hbody
    | none => exact .malformed hs hbody

/-- How a request ends. It was answered at some attempt, and the first response counts; or all
attempts were made without a response, and the last one says why; or it could not be made at all,
and nothing was sent. -/
inductive Conducted {α : Type} (s : GatewaySettings) (line : Line) (codec : Json.Codec α)
    (ofStatus : Nat → GatewayError) :
    Except TransportError HttpRequest → Except GatewayError α × Line → Prop where
  | answered {r : HttpRequest} {k : Nat} {response : HttpResponse} {a : Except GatewayError α}
      {after : Line} (hk : k < s.maxAttempts) (hfirst : IsFirstResponse line.script k response)
      (hacts : after.acts = line.acts ++ attempts s r (k + 1))
      (ha : Classified codec ofStatus response a) :
    Conducted s line codec ofStatus (.ok r) (a, after)
  | unanswered {r : HttpRequest} {e : TransportError} {after : Line}
      (hnone : ∀ i < s.maxAttempts, ∃ e, line.script i = .error e)
      (hlast : line.script (s.maxAttempts - 1) = .error e)
      (hacts : after.acts = line.acts ++ attempts s r s.maxAttempts) :
    Conducted s line codec ofStatus (.ok r) (.error (.transport e.message), after)
  | unmade {e : TransportError} {after : Line}
      (hacts : after.acts = line.acts ++
        (List.range' 1 (s.maxAttempts - 1)).map fun n => .paused (s.backoff n)) :
    Conducted s line codec ofStatus (.error e) (.error (.transport e.message), after)

/-- Sending a request and taking what comes of it for a result. -/
theorem conducted_send {α : Type} (hs : 0 < s.maxAttempts) (codec : Json.Codec α)
    (ofStatus : Nat → GatewayError) (request : Except TransportError HttpRequest) (line : Line) :
    Conducted s line codec ofStatus request
      ((Client.result codec ofStatus <$> Client.send Line.transport s request).run line) := by
  rw [StateT.run_map]
  show Conducted s line codec ofStatus request
    (Prod.map (Client.result codec ofStatus) id
      ((Client.sendFrom Line.transport s request (s.maxAttempts - 1) 1).run line))
  cases request with
  | error e =>
    rw [Client.sendFrom_run_of_unmade]
    exact .unmade rfl
  | ok r =>
    rcases firstResponse_or_none line.script s.maxAttempts with ⟨k, hk, response, hfirst⟩ | hnone
    · have hlast : IsLast line.script (s.maxAttempts - 1) k :=
        ⟨by omega, hfirst.before, .inr ⟨response, hfirst.responds⟩⟩
      rw [Client.sendFrom_run r hlast, hfirst.responds]
      exact .answered hk hfirst rfl (classified_result codec ofStatus response)
    · have hlast : IsLast line.script (s.maxAttempts - 1) (s.maxAttempts - 1) :=
        ⟨Nat.le_refl _, fun i hi => hnone i (by omega), .inl rfl⟩
      obtain ⟨e, he⟩ := hnone (s.maxAttempts - 1) (by omega)
      rw [Client.sendFrom_run r hlast, he]
      exact .unanswered hnone he rfl

/-- A request is sent again, as it was, until the first response or until the attempts are used up.
Whatever will come of the requests, a lookup and a cancel order end in one of three ways, and the
way tells how often they were sent, which pauses were made in between and what the result is. All
requests of a cancel order carry its key and its body. The pause before a retry is a saturating
product of a saturating power; pauses never get shorter and never exceed the longest one. -/
theorem retried_until_answered (s : GatewaySettings) (hs : 0 < s.maxAttempts) (line : Line)
    (paymentKey idempotencyKey : String) (order : CancelOrder) :
    Conducted s line PaymentAnswer.codec .ofLookupStatus (Client.lookupRequest s paymentKey)
        ((Client.lookup Line.transport s paymentKey).run line) ∧
      Conducted s line CancelAnswer.codec .ofCancelStatus
        (Client.cancelRequest s paymentKey idempotencyKey order)
        ((Client.cancel Line.transport s paymentKey idempotencyKey order).run line) ∧
      (∀ r, Client.cancelRequest s paymentKey idempotencyKey order = .ok r →
        r.idempotencyKey = some idempotencyKey ∧
          r.body = some (CancelOrder.codec.render order)) ∧
      (∀ r count, 0 < count →
        (attempts s r count).filterMap Act.request? = List.replicate count r) ∧
      (∀ m n, m ≤ n → s.backoff m ≤ s.backoff n ∧ s.backoff n ≤ s.maxRetryBackoff) ∧
      ∀ limit n, s.maxRetryBackoff ≤ limit →
        s.backoff n =
          min (min (s.retryBackoff * min (twoTo (n - 1)) (twoTo 32 - 1)) limit)
            s.maxRetryBackoff := by
  refine ⟨conducted_send hs _ _ _ line, conducted_send hs _ _ _ line, ?_,
    fun r count => requests_attempts r, fun m n h => ⟨s.backoff_mono h, s.backoff_le n⟩,
    fun limit n h => s.backoff_eq_saturated h n⟩
  intro r hr
  obtain ⟨url, -, rfl⟩ := Except.map_eq_ok.1 hr
  exact ⟨rfl, rfl⟩

/-- A cancel order to the gateway with the usual settings. The first attempt is not answered, the
second with the status 503: it is sent twice, with one pause of 200 milliseconds in between, and the
third attempt is not made. -/
theorem retried_until_answered_of_unavailable :
    let s := GatewaySettings.default
    let order : CancelOrder := .full "changed my mind"
    let line : Line := ⟨fun n => if n = 0 then .error .noAddress else .ok ⟨503, []⟩, []⟩
    0 < s.maxAttempts ∧
      ∃ r, Client.cancelRequest s "pg-key-123" "key-1" order = .ok r ∧
        ((Client.cancel Line.transport s "pg-key-123" "key-1" order).run line).1 =
          .error (.cancelFailed 503) ∧
        ((Client.cancel Line.transport s "pg-key-123" "key-1" order).run line).2.acts =
          [.sent r, .paused 200, .sent r] := by
  intro s order line
  obtain ⟨-, hcancel, -⟩ :=
    retried_until_answered s (by decide) line "pg-key-123" "key-1" order
  have hmade : (Client.cancelRequest s "pg-key-123" "key-1" order).isOk = true := by
    decide +kernel
  cases hr : Client.cancelRequest s "pg-key-123" "key-1" order with
  | error e =>
    rw [hr] at hmade
    cases hmade
  | ok r =>
    rw [hr] at hcancel
    refine ⟨by decide, r, rfl, ?_⟩
    generalize (Client.cancel Line.transport s "pg-key-123" "key-1" order).run line = x at *
    cases hcancel with
    | unanswered hnone => exact absurd (hnone 1 (by decide)) nofun
    | @answered _ k response a after hk hfirst hacts ha =>
      -- the response is that of the second attempt, as the first one has none
      have hsecond : k = 1 := by
        rcases Nat.lt_trichotomy k 1 with hlt | heq | hgt
        · obtain rfl : k = 0 := by omega
          cases hfirst.responds
        · exact heq
        · exact absurd (hfirst.before 1 hgt) nofun
      subst hsecond
      cases hfirst.responds
      cases ha with
      | decoded hsuccess | malformed hsuccess => cases hsuccess
      | refused => exact ⟨rfl, hacts⟩

end Gateway

end Payments
