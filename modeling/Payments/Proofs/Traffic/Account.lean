import Payments.Proofs.Traffic

/-!
# Payments.Proofs.Traffic.Account -- how far the refunds of a payment can be

Many calls may be trying to refund one payment. As long as none of them has stored that it begins,
the account of the payment is *free*: all of them wait, with nothing done. Whoever stores it first
*owns* the account from then on. The copies of all others are out of date by then and stay so, and
the record is never again one from which a refund could begin.

`Progress` says how far the owner has got, and `Account.IsOwned` what the record, the orders to
cancel and the announcements look like at that point. `Account.Sound` is kept by everything that can
happen to an account. That is shown here for each of these things by itself: the payment is
registered or deleted, a refund waits, claims the account, gets on, or stores what became of it.
-/

namespace Payments

open Payment (Verdict)
open Service

/-! ## How far a refund has got -/

/-- How far the refund that owns an account has got. -/
inductive Progress where
  | calling
  /-- The gateway has made the refund. -/
  | made (refundId : String)
  | settling (v : Verdict)
  /-- The payment was deleted before the verdict could be stored. -/
  | lost (v : Verdict) (deletedBy : String) (deletedAt : Instant)
  | dating (v : Verdict) (storedAt : Instant)
  | announcing (v : Verdict) (storedAt announcedAt : Instant)
  | ended (v : Verdict) (storedAt announcedAt : Instant)

namespace Progress

variable (q : Payment) (reason : String)

/-- The record, unless it has been deleted since; `q` is the payment with its refund begun. -/
def record : Progress → Payment
  | calling | made _ | settling _ => q
  | lost _ deletedBy deletedAt => q.removed deletedBy deletedAt
  | dating v storedAt | announcing v storedAt _ | ended v storedAt _ => (v.enter q).written storedAt

/-- What the owner still has to do. -/
def rest (i : PaymentId) : Progress → Procedure (Outcome Payment)
  | calling => (carryOut q q.ledger.amount reason).run
  | made refundId => .ask .now fun t => Service.settling (.made refundId t) q reason
  | settling v => Service.settling v q reason
  | lost _ _ _ => .done (refuse (.concurrentModification i.text))
  | dating v storedAt => Service.dating v reason ((v.enter q).written storedAt) q.ledger.amount
  | announcing v storedAt announcedAt =>
    let saved := (v.enter q).written storedAt
    Service.announcing v saved (v.announcement saved q.ledger.amount reason announcedAt)
  | ended v storedAt _ => .done (v.result ((v.enter q).written storedAt))

/-- What has been announced. -/
def events : Progress → List Event
  | ended v storedAt announcedAt =>
    [v.announcement ((v.enter q).written storedAt) q.ledger.amount reason announcedAt]
  | _ => []

variable {q}

theorem record_paymentKey (g : Progress) :
    (g.record q).reference.paymentKey = q.reference.paymentKey := by
  have entered (v : Verdict) : (v.enter q).reference.paymentKey = q.reference.paymentKey := by
    cases v <;> rfl
  cases g with
  | calling | made | settling | lost => rfl
  | dating v | announcing v | ended v => exact entered v

/-- From no record of a refund, under way or over, can another one begin. -/
theorem record_not_isRefundable {g : Progress} (hq : q.status = .refunding) :
    (g.record q).status.isRefundable = false := by
  have closed (v : Verdict) : (v.enter q).status.isRefundable = false := by
    rcases v.enter_status q with hv | hv <;> rw [hv] <;> rfl
  cases g with
  | calling | made | settling | lost =>
    show q.status.isRefundable = false
    rw [hq]
    rfl
  | dating v | announcing v | ended v => exact closed v

end Progress

/-- The order is the one that the refund `n` gave for the whole of the payment `q`. -/
structure Cancel.IsGivenBy (c : Cancel) (n : Nat) (q : Payment) (reason : String) : Prop where
  caller : c.caller = n
  key : q.reference.paymentKey = some c.paymentKey
  order : c.order = .full reason

/-- The verdict is what follows from the gateway's answer. -/
def Payment.Verdict.Follows (answer : Except GatewayError Gateway.CancelAnswer) : Verdict → Prop
  | made id _ => (answer >>= refundId) = .ok id
  | failed cause => ∃ e, (answer >>= refundId) = .error e ∧ cause = .gateway e

/-- The owner acts on the gateway's answer. -/
def Progress.Follows (answer : Except GatewayError Gateway.CancelAnswer) : Progress → Prop
  | calling => False
  | made id => (answer >>= refundId) = .ok id
  | settling v | lost v _ _ | dating v _ | announcing v _ _ | ended v _ _ => v.Follows answer

namespace Account

/-- The record has been written since, or it is the same. -/
def Later (record record' : Option Payment) : Prop :=
  ∀ r, record = some r → ∃ r', record' = some r' ∧ r.Precedes r'

/-- A refund that has done nothing yet, or that has failed. What it has found, if it has found the
payment, is the record or an earlier state of it. -/
def Waits (i : PaymentId) (record : Option Payment) (x : Refunding) : Prop :=
  x.rest = (refund i.text x.orderId x.reason).run ∨
    (∃ p r : Payment, p.IsVerifiedRecord i ∧ record = some r ∧ p.Precedes r ∧
      x.rest = claiming (p.begun x.reason) p.ledger.amount x.reason) ∨
    ∃ f, x.rest = .done (.error f)

/-- No refund has begun. -/
structure IsFree (i : PaymentId) (a : Account) : Prop where
  isOpen : ∀ r, a.record = some r → r.IsOpenRecord
  cancels : a.cancels = []
  events : a.events = []
  waits : ∀ m y, a.refunds m = some y → Waits i a.record y

/-- The refund `x`, of the call `n`, has stored that it begins, which left the record `q`, and has
got as far as `g`. -/
structure IsOwned (i : PaymentId) (a : Account) (n : Nat) (x : Refunding) (q : Payment)
    (g : Progress) : Prop where
  owner : a.refunds n = some x
  rest : x.rest = g.rest q x.reason i
  begun : q.IsRefunding i
  record : ∃ r, a.record = some r ∧ (g.record q).UpToDeletion r
  cancels : (g = .calling ∧ a.cancels = []) ∨
    ∃ c, a.cancels = [c] ∧ c.IsGivenBy n q x.reason ∧ g.Follows c.answer
  events : a.events = g.events q x.reason
  waits : ∀ m y, m ≠ n → a.refunds m = some y → Waits i a.record y

/-- All refunds of the payment have returned. -/
def IsQuiet (a : Account) : Prop :=
  ∀ n x, a.refunds n = some x → ∃ o, x.rest = .done o

/-- Whether the record stands as deleted in the middle of its refund. -/
def isStuck (a : Account) : Bool :=
  a.record.any fun r => r.status == .refunding && r.isDeleted

/-- What holds of every account at any time. -/
structure Sound (i : PaymentId) (a : Account) : Prop where
  filed : ∀ r, a.record = some r → r.id = some i
  interrupted : a.interrupted = a.isStuck
  standing : a.IsFree i ∨ ∃ n x q g, a.IsOwned i n x q g

variable {i : PaymentId} {a : Account}

theorem Later.refl (record : Option Payment) : Later record record := by
  intro r hr
  exact ⟨r, hr, .refl r⟩

theorem later_of_lt {r r' : Payment} (h : r.version < r'.version) : Later (some r) (some r') := by
  intro q hq
  cases hq
  exact ⟨r', rfl, Or.inr h⟩

theorem Waits.mono {record record' : Option Payment} {x : Refunding} (h : Waits i record x)
    (hlater : Later record record') : Waits i record' x := by
  rcases h with h | ⟨p, r, hp, hr, hpr, hx⟩ | h
  · exact Or.inl h
  · obtain ⟨r', hr', hrr'⟩ := hlater r hr
    exact Or.inr (Or.inl ⟨p, r', hp, hr', hpr.trans hrr', hx⟩)
  · exact Or.inr (Or.inr h)

/-- An owner that is past its call to the gateway has given one order to cancel. -/
theorem IsOwned.asked {n : Nat} {x : Refunding} {q : Payment} {g : Progress}
    (ho : a.IsOwned i n x q g) (hg : g ≠ .calling) :
    ∃ c, a.cancels = [c] ∧ c.IsGivenBy n q x.reason ∧ g.Follows c.answer := by
  rcases ho.cancels with ⟨hcalling, -⟩ | hc
  · exact absurd hcalling hg
  · exact hc

theorem isStuck_of_status {r : Payment} (hr : a.record = some r) (hs : r.status ≠ .refunding) :
    a.isStuck = false := by
  rw [isStuck, hr, Option.any_some, beq_false_of_ne hs, Bool.false_and]

theorem isStuck_of_no_deletion {r : Payment} (hr : a.record = some r) (hd : r.deletion = none) :
    a.isStuck = false := by
  rw [isStuck, hr, Option.any_some, Payment.isDeleted_of_no_deletion hd, Bool.and_false]

theorem sound_empty : Sound i ⟨none, [], [], false, fun _ => none⟩ where
  filed := fun _ h => (nomatch h)
  interrupted := rfl
  standing := Or.inl ⟨fun _ h => (nomatch h), rfl, rfl, fun _ _ h => (nomatch h)⟩

/-! ## The payment is registered or deleted -/

/-- The payment is registered. -/
theorem Sound.insert (h : a.Sound i) (hr : a.record = none) {p : Payment} (hp : p.IsOpenRecord)
    (hi : p.id = some i) : Sound i { a with record := some p } where
  filed := by
    intro r hr'
    cases hr'
    exact hi
  interrupted := by
    have hbefore : a.isStuck = false := by
      rw [isStuck, hr]
      rfl
    rw [isStuck_of_status (a := { a with record := some p }) rfl hp.status_ne_refunding]
    exact h.interrupted.trans hbefore
  standing := by
    rcases h.standing with hf | ⟨n, x, q, g, ho⟩
    · refine Or.inl ⟨?_, hf.cancels, hf.events, ?_⟩
      · intro r hr'
        cases hr'
        exact hp
      · intro m y hy
        apply (hf.waits m y hy).mono
        intro r hr'
        cases hr.symm.trans hr'
    · -- an account that is owned has a record
      obtain ⟨r, hr', -⟩ := ho.record
      cases hr.symm.trans hr'

/-- The payment is deleted. -/
theorem Sound.remove (h : a.Sound i) {r : Payment} (hr : a.record = some r)
    (hd : r.isDeleted = false) (deletedBy : String) (now : Instant) :
    Sound i { a with
      record := some (r.removed deletedBy now)
      interrupted := a.interrupted || r.status == .refunding } where
  filed := by
    intro r' hr'
    cases hr'
    exact h.filed r hr
  interrupted := by
    show (a.interrupted || r.status == .refunding) = (r.status == .refunding && true)
    rw [h.interrupted, isStuck, hr, Option.any_some, hd, Bool.and_false, Bool.false_or,
      Bool.and_true]
  standing := by
    have hlater : Later a.record (some (r.removed deletedBy now)) := by
      rw [hr]
      exact later_of_lt (Nat.lt_succ_self _)
    rcases h.standing with hf | ⟨n, x, q, g, ho⟩
    · refine Or.inl ⟨?_, hf.cancels, hf.events, fun m y hy => (hf.waits m y hy).mono hlater⟩
      intro r' hr'
      cases hr'
      exact (hf.isOpen r hr).removed hd deletedBy now
    · -- the record was not deleted yet, so it is what the owner has left
      obtain ⟨r', hr', hg⟩ := ho.record
      cases hr.symm.trans hr'
      have hrg : r = g.record q := hg.eq_of_undeleted hd
      refine Or.inr ⟨n, x, q, g, { ho with record := ?_, waits := ?_ }⟩
      · exact ⟨_, rfl, Or.inr ⟨deletedBy, now, by rw [hrg]⟩⟩
      · intro m y hm hy
        exact (ho.waits m y hm hy).mono hlater

/-! ## A refund waits -/

/-- No refund owns the account, or one of another call than `n` does. -/
def NotOwnedBy (i : PaymentId) (a : Account) (n : Nat) : Prop :=
  a.IsFree i ∨ ∃ m x q g, m ≠ n ∧ a.IsOwned i m x q g

/-- A refund owns the account, or it waits. -/
theorem Sound.waits_or_owns (h : a.Sound i) {n : Nat} {x : Refunding} (hn : a.refunds n = some x) :
    a.NotOwnedBy i n ∧ Waits i a.record x ∨ ∃ q g, a.IsOwned i n x q g := by
  rcases h.standing with hf | ⟨m, y, q, g, ho⟩
  · exact Or.inl ⟨Or.inl hf, hf.waits n x hn⟩
  · by_cases hnm : n = m
    · subst hnm
      cases ho.owner.symm.trans hn
      exact Or.inr ⟨q, g, ho⟩
    · exact Or.inl ⟨Or.inr ⟨m, y, q, g, Ne.symm hnm, ho⟩, ho.waits n x hnm hn⟩

/-- A call that is new owns nothing. -/
theorem Sound.notOwnedBy (h : a.Sound i) {n : Nat} (hn : a.refunds n = none) :
    a.NotOwnedBy i n := by
  rcases h.standing with hf | ⟨m, x, q, g, ho⟩
  · exact Or.inl hf
  · refine Or.inr ⟨m, x, q, g, ?_, ho⟩
    rintro rfl
    cases hn.symm.trans ho.owner

/-- Who was waiting before waits after the turn of another refund that waits. -/
theorem waits_turn {n m : Nat} {y z : Refunding} (hy : Waits i a.record y)
    (hwaits : m ≠ n → ∀ z, a.refunds m = some z → Waits i a.record z)
    (hz : (a.turn n (some y)).refunds m = some z) : Waits i a.record z := by
  by_cases hm : m = n
  · rw [hm, turn_refunds_self] at hz
    cases hz
    exact hy
  · rw [turn_refunds_of_ne hm] at hz
    exact hwaits hm z hz

/-- A refund that is not the owner comes in, finds the payment, or fails. -/
theorem Sound.turn (h : a.Sound i) {n : Nat} {y : Refunding} (hn : a.NotOwnedBy i n)
    (hy : Waits i a.record y) : (a.turn n (some y)).Sound i where
  filed := h.filed
  interrupted := h.interrupted
  standing := by
    -- the turn changes neither the record nor the owner, only who waits
    rcases hn with hf | ⟨m, x, q, g, hmn, ho⟩
    · apply Or.inl
      refine { hf with waits := ?_ }
      intro k z hz
      exact waits_turn (a := a) hy (fun _ => hf.waits k) hz
    · refine Or.inr ⟨m, x, q, g, { ho with owner := ?_, waits := ?_ }⟩
      · rw [turn_refunds_of_ne hmn]
        exact ho.owner
      · intro k z hkm hz
        exact waits_turn (a := a) hy (fun _ w => ho.waits k w hkm) hz

/-! ## A refund owns the account -/

/-- Only an account that is free has a record from which a refund can begin. -/
theorem Sound.isFree (h : a.Sound i) {r : Payment} (hr : a.record = some r)
    (hs : r.status.isRefundable = true) : a.IsFree i := by
  rcases h.standing with hf | ⟨n, x, q, g, ho⟩
  · exact hf
  · obtain ⟨r', hr', hg⟩ := ho.record
    cases hr.symm.trans hr'
    rw [hg.status, Progress.record_not_isRefundable ho.begun.status] at hs
    cases hs

variable {n : Nat} {orderId reason : String} {rest : Procedure (Outcome Payment)} {q : Payment}

/-- A refund stores that it begins, and owns the account from then on. Those that wait stay behind:
what they have found is older than the record now. -/
theorem Sound.claim (h : a.Sound i) (hf : a.IsFree i) {r : Payment} (hr : a.record = some r)
    (hq : q.IsRefunding i) (hlt : r.version < q.version) :
    Sound i ({ a with record := some q }.turn n
      (some ⟨orderId, reason, Progress.calling.rest q reason i⟩)) where
  filed := by
    intro r' hr'
    cases hr'
    exact hq.id
  interrupted := by
    -- the record was not refunding before, and is not deleted now
    have hbefore := isStuck_of_status hr (hf.isOpen r hr).status_ne_refunding
    have hafter : Option.any _ (some q) = false :=
      isStuck_of_no_deletion (a := { a with record := some q }) rfl hq.deletion
    exact h.interrupted.trans (hbefore.trans hafter.symm)
  standing := by
    refine Or.inr ⟨n, ⟨orderId, reason, Progress.calling.rest q reason i⟩, q, .calling, ?_⟩
    exact
      { owner := turn_refunds_self _ n _
        rest := rfl
        begun := hq
        record := ⟨q, rfl, Or.inl rfl⟩
        cancels := Or.inl ⟨rfl, hf.cancels⟩
        events := hf.events
        waits := by
          intro m y hm hy
          rw [turn_refunds_of_ne hm] at hy
          have hlater : Later a.record (some q) := by
            rw [hr]
            exact later_of_lt hlt
          exact (hf.waits m y hy).mono hlater }

/-- The owner of an account gets further, and the record stays or is written. -/
theorem IsOwned.move {x y : Refunding} {g : Progress} {b : Account} (ho : a.IsOwned i n x q g)
    (g' : Progress) (hrefunds : b.refunds = a.refunds) (hlater : Later a.record b.record)
    (hrest : y.rest = g'.rest q y.reason i)
    (hrecord : ∃ r, b.record = some r ∧ (g'.record q).UpToDeletion r)
    (hcancels : ∃ c, b.cancels = [c] ∧ c.IsGivenBy n q y.reason ∧ g'.Follows c.answer)
    (hevents : b.events = g'.events q y.reason) : (b.turn n (some y)).IsOwned i n y q g' where
  owner := turn_refunds_self b n _
  rest := hrest
  begun := ho.begun
  record := hrecord
  cancels := Or.inr hcancels
  events := hevents
  waits := by
    intro m z hm hz
    rw [turn_refunds_of_ne hm, hrefunds] at hz
    exact (ho.waits m z hm hz).mono hlater

/-- The owner of an account gets further without writing the record. -/
theorem Sound.move (h : a.Sound i) {x y : Refunding} {g : Progress} {b : Account}
    (ho : a.IsOwned i n x q g) (g' : Progress) (hrefunds : b.refunds = a.refunds)
    (hsame : b.record = a.record) (hinterrupted : b.interrupted = a.interrupted)
    (hrest : y.rest = g'.rest q y.reason i)
    (hrecord : ∃ r, a.record = some r ∧ (g'.record q).UpToDeletion r)
    (hcancels : ∃ c, b.cancels = [c] ∧ c.IsGivenBy n q y.reason ∧ g'.Follows c.answer)
    (hevents : b.events = g'.events q y.reason) : (b.turn n (some y)).Sound i where
  filed := fun r hr => h.filed r (hsame.symm.trans hr)
  interrupted := by
    show b.interrupted = Option.any _ b.record
    rw [hinterrupted, hsame]
    exact h.interrupted
  standing := by
    have hlater : Later a.record b.record := by
      rw [hsame]
      exact .refl a.record
    refine Or.inr ⟨n, y, q, g', ho.move g' hrefunds hlater hrest ?_ hcancels hevents⟩
    rw [hsame]
    exact hrecord

/-- The owner stores the verdict on the record that it left. -/
theorem Sound.settle (h : a.Sound i) {v : Verdict}
    (ho : a.IsOwned i n ⟨orderId, reason, rest⟩ q (.settling v)) (hr : a.record = some q)
    (now : Instant) :
    Sound i ({ a with record := some ((v.enter q).written now) }.turn n
      (some ⟨orderId, reason, (Progress.dating v now).rest q reason i⟩)) where
  filed := by
    intro r hr'
    cases hr'
    exact (v.enter_id q).trans ho.begun.id
  interrupted := by
    -- the record was not deleted before, and is not refunding now
    have hbefore := isStuck_of_no_deletion hr ho.begun.deletion
    have hafter : Option.any _ (some ((v.enter q).written now)) = false :=
      isStuck_of_status (a := { a with record := some ((v.enter q).written now) }) rfl
        (v.enter_status_ne_refunding q)
    exact h.interrupted.trans (hbefore.trans hafter.symm)
  standing := by
    have hlater : Later a.record (some ((v.enter q).written now)) := by
      rw [hr]
      apply later_of_lt
      show q.version < (v.enter q).version + 1
      rw [v.enter_version q]
      exact Nat.lt_succ_self _
    exact Or.inr ⟨n, _, q, .dating v now, ho.move (.dating v now) rfl hlater rfl
      ⟨_, rfl, Or.inl rfl⟩ (ho.asked nofun) ho.events⟩

end Account

end Payments
