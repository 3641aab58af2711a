import Payments.Proofs.Traffic.Soundness

/-!
# Payments.Proofs.Traffic.Outcome -- what becomes of refunds among overlapping calls

Two questions about calls that overlap, answered from the soundness of accounts.

* Is money given back twice? No: of all refunds of one payment at most one gets as far as the
  gateway, and at most one is told that it succeeded (`Traffic.refunded_at_most_once`).
* Is it always known that money was given back? Not always. A deletion is a write like any other,
  and it may come between the two writes of a refund. The verdict is then refused as out of date,
  nothing is announced, and the record stays where it is (`Traffic.refund_kept_unless_interrupted`
  and `Traffic.interrupted_refund_is_lost`).
-/

namespace Payments

open Payment (Verdict)
open Service

/-! ## At most one refund -/

namespace Account

variable {i : PaymentId} {a : Account} {n : Nat}

theorem Waits.rest_ne_done_ok {record : Option Payment} {x : Refunding} (h : Waits i record x)
    (p : Payment) : x.rest ≠ .done (.ok p) := by
  intro hx
  rcases h with h | ⟨q, r, -, -, -, h⟩ | ⟨f, h⟩
  · cases hx.symm.trans (h.trans (run_refund i x.orderId x.reason))
  · cases hx.symm.trans h
  · cases hx.symm.trans h

theorem Sound.length_cancels (h : a.Sound i) : a.cancels.length ≤ 1 := by
  rcases h.standing with hf | ⟨m, x, q, g, ho⟩
  · rw [hf.cancels]
    exact Nat.zero_le 1
  · rcases ho.cancels with ⟨-, hc⟩ | ⟨c, hc, -⟩
    · rw [hc]
      exact Nat.zero_le 1
    · rw [hc]
      exact Nat.le_refl 1

/-- Who has given an order to cancel owns the account, and acts on the answer. -/
theorem Sound.owner_of_cancel (h : a.Sound i) {c : Cancel} (hc : c ∈ a.cancels) :
    ∃ x q g, a.IsOwned i c.caller x q g ∧ c.IsGivenBy c.caller q x.reason ∧
      g.Follows c.answer := by
  rcases h.standing with hf | ⟨m, x, q, g, ho⟩
  · rw [hf.cancels] at hc
    cases hc
  · rcases ho.cancels with ⟨-, hnone⟩ | ⟨d, hd, hgiven, hg⟩
    · rw [hnone] at hc
      cases hc
    · rw [hd] at hc
      cases List.mem_singleton.1 hc
      have hcaller : m = c.caller := hgiven.caller.symm
      subst hcaller
      exact ⟨x, q, g, ho, hgiven, hg⟩

/-- What is cancelled is the payment of the record. -/
theorem Sound.record_of_cancel (h : a.Sound i) {c : Cancel} (hc : c ∈ a.cancels) :
    ∃ p, a.record = some p ∧ p.reference.paymentKey = some c.paymentKey := by
  obtain ⟨x, q, g, ho, hgiven, -⟩ := h.owner_of_cancel hc
  obtain ⟨p, hp, hqp⟩ := ho.record
  refine ⟨p, hp, ?_⟩
  rw [hqp.reference, g.record_paymentKey]
  exact hgiven.key

/-- Only the owner of the account can return the refunded payment. -/
theorem Sound.owner_of_done_ok (h : a.Sound i) {x : Refunding} {p : Payment}
    (hn : a.refunds n = some x) (hx : x.rest = .done (.ok p)) :
    ∃ q g, a.IsOwned i n x q g := by
  rcases h.waits_or_owns hn with ⟨-, hw⟩ | ho
  · exact absurd hx (hw.rest_ne_done_ok p)
  · exact ho

theorem Sound.refunded_once (h : a.Sound i) {m n : Nat} {x y : Refunding} {p q : Payment}
    (hm : a.refunds m = some x) (hx : x.rest = .done (.ok p)) (hn : a.refunds n = some y)
    (hy : y.rest = .done (.ok q)) : m = n := by
  by_cases hmn : n = m
  · exact hmn.symm
  · obtain ⟨_, _, ho⟩ := h.owner_of_done_ok hm hx
    exact absurd hy ((ho.waits n y hmn hn).rest_ne_done_ok q)

end Account

namespace Traffic

/-- When no call is in flight, no refund of any payment is. -/
theorem IsQuiet.account {t : Traffic} (h : t.IsQuiet) (i : PaymentId) : (t.account i).IsQuiet := by
  intro n x hx
  exact h _ (List.mem_of_getElem? (activity_of_refunds hx))

theorem exists_refund_of_hasRefunded {a : Activity} {i : PaymentId}
    (h : a.hasRefunded i = true) :
    ∃ x p, a.refund? i = some x ∧ x.rest = .done (.ok p) := by
  unfold Activity.hasRefunded at h
  split at h
  · next orderId reason p hx => exact ⟨_, p, hx, rfl⟩
  · cases h

/-- However many calls there are and however they overlap, the gateway is told to cancel only by
refunds of stored payments, under the key of the payment. Of all refunds of one payment at most one
gets that far, and at most one returns that the payment was refunded. -/
theorem refunded_at_most_once (moves : List Move) :
    let t := after moves
    (∀ x ∈ t.log, ∀ key order, x.request = .cancel key order →
      ∃ i p, x.call.refunds i = true ∧ t.store.record? i = some p ∧
        p.reference.paymentKey = some key) ∧
      ∀ i, (t.cancels i).length ≤ 1 ∧
        ∀ (m n : Nat) (a b : Activity), t.activities[m]? = some a → t.activities[n]? = some b →
          a.hasRefunded i = true → b.hasRefunded i = true → m = n := by
  intro t
  have hsound : t.Sound := sound_after moves
  constructor
  · intro x hx key order hr
    obtain ⟨i, hi⟩ := hsound.orders x hx key order hr
    obtain ⟨n, c, r, answer⟩ := x
    cases hr
    -- the order is in the account of the payment, whose owner gave it
    have hlisted : ⟨n, key, order, answer⟩ ∈ t.cancels i := by
      apply List.mem_flatMap.2 ⟨_, hx, ?_⟩
      rw [Exchange.cancels, if_pos hi]
      exact List.mem_singleton_self _
    obtain ⟨p, hp, hkey⟩ := (hsound.accounts i).record_of_cancel hlisted
    exact ⟨i, p, hi, hp, hkey⟩
  · intro i
    have h := hsound.accounts i
    refine ⟨h.length_cancels, ?_⟩
    intro m n a b ha hb hra hrb
    obtain ⟨x, p, hx, hxp⟩ := exists_refund_of_hasRefunded hra
    obtain ⟨y, q, hy, hyq⟩ := exists_refund_of_hasRefunded hrb
    exact h.refunded_once ((account_refunds ha i).trans hx) hxp ((account_refunds hb i).trans hy)
      hyq

end Traffic

/-! ## Interrupted refunds -/

/-- An answer that lists cancellations tells the id of the latest. -/
theorem Cancel.exists_refundId {c : Cancel} (h : c.isMade = true) :
    ∃ id, (c.answer >>= refundId) = .ok id := by
  unfold isMade at h
  split at h
  · next answer ha =>
    have hne : answer.cancels ≠ [] := by
      intro hnil
      rw [hnil] at h
      cases h
    have hid : answer.latestRefundId? = some (answer.cancels.getLast hne).transactionKey := by
      rw [Gateway.CancelAnswer.latestRefundId?, List.getLast?_eq_some_getLast hne]
      rfl
    rw [ha]
    show ∃ id, refundId answer = .ok id
    rw [refundId, hid]
    exact ⟨_, rfl⟩
  · cases h

/-- A refund that the gateway has made gets the verdict that it was made. -/
theorem Payment.Verdict.Follows.made {answer : Except GatewayError Gateway.CancelAnswer}
    {v : Verdict} {refundId : String} (h : v.Follows answer)
    (ha : (answer >>= Service.refundId) = .ok refundId) : ∃ t, v = .made refundId t := by
  cases v with
  | made id t =>
    cases ha.symm.trans h
    exact ⟨t, rfl⟩
  | failed cause =>
    obtain ⟨e, he, -⟩ := h
    cases ha.symm.trans he

namespace Account

variable {i : PaymentId} {a : Account} {n : Nat} {x : Refunding} {q : Payment} {v : Verdict}

/-- The record says that everything was given back, and that was announced once. -/
def ShowsRefund (a : Account) : Prop :=
  ∃ p e, a.record = some p ∧ p.status = .refunded ∧ p.ledger.refunded = p.ledger.amount ∧
    a.events = [.refunded e]

theorem IsOwned.isStuck_lost {deletedBy : String} {deletedAt : Instant}
    (ho : a.IsOwned i n x q (.lost v deletedBy deletedAt)) : a.isStuck = true := by
  obtain ⟨r, hr, hqr⟩ := ho.record
  have hd : r.isDeleted = true := by
    rcases hqr with rfl | ⟨_, _, rfl⟩ <;> rfl
  rw [isStuck, hr, Option.any_some, hqr.status, hd]
  show (q.status == .refunding && true) = true
  rw [ho.begun.status]
  rfl

theorem IsOwned.isStuck_ended {storedAt announcedAt : Instant}
    (ho : a.IsOwned i n x q (.ended v storedAt announcedAt)) : a.isStuck = false := by
  obtain ⟨r, hr, hqr⟩ := ho.record
  rw [isStuck, hr, Option.any_some, hqr.status]
  show ((v.enter q).status == .refunding && _) = false
  rw [beq_false_of_ne (v.enter_status_ne_refunding q), Bool.false_and]

theorem IsOwned.showsRefund {refundId : String} {at_ storedAt announcedAt : Instant}
    (ho : a.IsOwned i n x q (.ended (.made refundId at_) storedAt announcedAt)) :
    a.ShowsRefund := by
  obtain ⟨r, hr, hqr⟩ := ho.record
  refine ⟨r, _, hr, hqr.status, ?_, ho.events⟩
  rcases hqr with rfl | ⟨_, _, rfl⟩ <;> rfl

/-- An owner that has returned has lost its way or has ended. -/
theorem IsOwned.of_done {g : Progress} {o : Outcome Payment} (ho : a.IsOwned i n x q g)
    (hx : x.rest = .done o) :
    (∃ v deletedBy deletedAt, g = .lost v deletedBy deletedAt ∧
      o = refuse (.concurrentModification i.text)) ∨
    ∃ v storedAt announcedAt, g = .ended v storedAt announcedAt ∧
      o = v.result ((v.enter q).written storedAt) := by
  -- at all other points the owner has a request left
  have hr : g.rest q x.reason i = .done o := ho.rest.symm.trans hx
  cases g with
  | calling =>
    obtain ⟨key, -, hcall⟩ := run_carryOut x.reason ho.begun
    cases hcall.symm.trans hr
  | lost v deletedBy deletedAt =>
    cases hr
    exact Or.inl ⟨v, deletedBy, deletedAt, rfl, rfl⟩
  | ended v storedAt announcedAt =>
    cases hr
    exact Or.inr ⟨v, storedAt, announcedAt, rfl, rfl⟩
  | made | settling | dating | announcing => cases hr

/-- What becomes of a refund that the gateway has made. -/
theorem Sound.refund_made (h : a.Sound i) {c : Cancel} {refundId : String} (hc : c ∈ a.cancels)
    (hid : (c.answer >>= Service.refundId) = .ok refundId) :
    ∃ x, a.refunds c.caller = some x ∧ ∀ o, x.rest = .done o →
      (a.interrupted = false → (∃ saved, o = .ok saved) ∧ a.ShowsRefund) ∧
      (a.interrupted = true →
        o = refuse (.concurrentModification i.text) ∧ a.isStuck = true ∧ a.events = []) := by
  obtain ⟨x, q, g, ho, -, hg⟩ := h.owner_of_cancel hc
  refine ⟨x, ho.owner, ?_⟩
  intro o hx
  rcases ho.of_done hx with ⟨v, deletedBy, deletedAt, rfl, ho'⟩ | ⟨v, s, t, rfl, ho'⟩
  · have hs := ho.isStuck_lost
    refine ⟨?_, fun _ => ⟨ho', hs, ho.events⟩⟩
    intro hi
    rw [h.interrupted, hs] at hi
    cases hi
  · have hs := ho.isStuck_ended
    obtain ⟨at_, rfl⟩ := Verdict.Follows.made hg hid
    refine ⟨fun _ => ⟨⟨_, ho'⟩, ho.showsRefund⟩, ?_⟩
    intro hi
    rw [h.interrupted, hs] at hi
    cases hi

/-- When no refund of the payment is in flight, only an interrupted one leaves the payment in the
middle of its refund. -/
theorem Sound.refunding_iff (h : a.Sound i) (hquiet : a.IsQuiet) {p : Payment}
    (hp : a.record = some p) : p.status = .refunding ↔ a.interrupted = true := by
  rw [h.interrupted]
  constructor
  · intro hs
    rcases h.standing with hf | ⟨n, x, q, g, ho⟩
    · exact absurd hs (hf.isOpen p hp).status_ne_refunding
    · obtain ⟨o, hx⟩ := hquiet n x ho.owner
      rcases ho.of_done hx with ⟨v, deletedBy, deletedAt, rfl, -⟩ | ⟨v, s, t, rfl, -⟩
      · exact ho.isStuck_lost
      · obtain ⟨r, hr, hqr⟩ := ho.record
        cases hp.symm.trans hr
        exact absurd (hqr.status.symm.trans hs) (v.enter_status_ne_refunding q)
  · intro hs
    rw [isStuck, hp, Option.any_some, Bool.and_eq_true] at hs
    exact beq_iff_eq.1 hs.1

end Account

namespace Traffic

/-- A refund that the gateway has made, and that has returned, is on record and was announced,
unless the payment was deleted between the two writes of the refund. If it was, the refund returns
that the payment was modified concurrently, the record stays in the middle of the refund, and
nothing is announced. When no call is in flight, this is also the only way in which a payment can
stand in the middle of a refund. -/
theorem refund_kept_unless_interrupted (moves : List Move) (i : PaymentId) :
    let t := after moves
    (∀ c ∈ t.cancels i, c.isMade = true →
      ∃ orderId reason rest,
        t.activities[c.caller]? = some ⟨.refund i.text orderId reason, rest⟩ ∧
          ∀ o, rest = .done o →
            (t.interrupted i = false →
              (∃ saved, o = .ok saved) ∧ (t.account i).ShowsRefund) ∧
            (t.interrupted i = true →
              o = refuse (.concurrentModification i.text) ∧ (t.account i).isStuck = true ∧
                t.events i = [])) ∧
      (t.IsQuiet → ∀ p, t.store.record? i = some p →
        (p.status = .refunding ↔ t.interrupted i = true)) := by
  intro t
  have h : (t.account i).Sound i := (sound_after moves).accounts i
  constructor
  · intro c hc hmade
    obtain ⟨refundId, hid⟩ := Cancel.exists_refundId hmade
    obtain ⟨x, hx, hover⟩ := h.refund_made hc hid
    exact ⟨x.orderId, x.reason, x.rest, activity_of_refunds hx, hover⟩
  · intro hq p hp
    exact h.refunding_iff (hq.account i) hp

/-- A payment is registered, and a refund of it is made at the gateway. Before the refund has looked
at the clock and stored the verdict, the payment is deleted. -/
def interruptedRefund : List Move :=
  .call (.register Sample.registration) :: List.replicate 8 (.answer 0 Sample.cue) ++
    .call (.refund Sample.identity.text "order-1" "changed my mind") ::
    List.replicate 3 (.answer 1 Sample.cue) ++
    .call (.delete Sample.identity.text "operator") :: List.replicate 2 (.answer 2 Sample.cue) ++
    List.replicate 2 (.answer 1 Sample.cue)

/-- The money has been given back and all calls have returned, but the record stands in the middle
of the refund, and nobody was told. -/
theorem interrupted_refund_is_lost :
    let t := after interruptedRefund
    (t.cancels Sample.identity).any Cancel.isMade = true ∧ t.IsQuiet ∧
      (t.store.record? Sample.identity).map (fun p => (p.status, p.ledger.refunded)) =
        some (.refunding, Decimal.zero) ∧
      t.events Sample.identity = [] := by
  decide

end Traffic

end Payments
