import Payments.Proofs.Traffic.Outcome

/-!
# Payments.Proofs.Traffic.InTurn -- calls one after another

When every call has returned before the next one comes in, no deletion can come between the two
writes of a refund. So each payment is open, refunded or not refundable any more, and the store, the
gateway and the listeners agree about it (`Traffic.agrees_in_turn`).

Calls in turn are a special case of calls that overlap, so all that is to be added to the soundness
of accounts is that no refund is ever interrupted.
-/

namespace Payments

open Payment (Verdict)
open Service

namespace Traffic

/-- Answers the requests of a call until it returns. -/
def serve {α : Type} (n : Nat) : Procedure α → (Nat → Cue) → Traffic → Traffic
  | .done _, _, t => t
  | .ask r next, cues, t =>
    serve n (next ((cues 0).answer t.store r).1) (fun k => cues (k + 1))
      (t.step (.answer n (cues 0)))

/-- A call comes in and is served to its end. -/
def perform (t : Traffic) (c : Call) (cues : Nat → Cue) : Traffic :=
  serve t.activities.length c.attempt.run cues (t.step (.call c))

/-- Where calls lead to from the beginning if each returns before the next one comes in. -/
def inTurn (calls : List (Call × (Nat → Cue))) : Traffic :=
  calls.foldl (fun t x => t.perform x.1 x.2) start

end Traffic

/-! ## What all have to say about a payment -/

namespace Account

/-- The record of a payment, what was announced about it and what the gateway was told agree. -/
def Agrees (a : Account) (p : Payment) : Prop :=
  match p.status with
  | .verified | .verificationFailed =>
    p.ledger.refunded = Decimal.zero ∧ a.events = [] ∧ a.cancels = [] ∧ p.version = 1 + p.mark
  | .refunded =>
    p.ledger.refunded = p.ledger.amount ∧
      (∃ e : RefundDone, a.events = [.refunded e] ∧ e.fullRefund = true ∧
        e.refundAmount = p.ledger.amount ∧ e.totalRefundedAmount = p.ledger.amount ∧
        e.refundId = p.reference.refundId) ∧
      a.cancels.length = 1 ∧ p.version = 3 + p.mark
  | .refundFailed =>
    p.ledger.refunded = Decimal.zero ∧
      (∃ e : RefundFailed, a.events = [.refundFailed e] ∧
        e.requestedAmount = p.ledger.amount ∧ p.failureReason = some e.errorMessage) ∧
      a.cancels.length = 1 ∧ p.version = 3 + p.mark
  | .pending | .verifying | .refunding | .partiallyRefunded | .cancelled => False

variable {i : PaymentId} {a : Account}

theorem IsFree.agrees (hf : a.IsFree i) {p : Payment} (hp : a.record = some p) : a.Agrees p := by
  have ho := hf.isOpen p hp
  unfold Agrees
  rcases ho.status with hs | hs <;> rw [hs] <;>
    exact ⟨ho.refunded, hf.events, hf.cancels, ho.version⟩

theorem IsOwned.version_ended {n : Nat} {x : Refunding} {q p : Payment} {v : Verdict}
    {s t : Instant} (ho : a.IsOwned i n x q (.ended v s t)) (hp : a.record = some p) :
    p.version = 3 + p.mark := by
  obtain ⟨r, hr, hqr⟩ := ho.record
  cases hp.symm.trans hr
  have hv : (v.enter q).version = 2 := (v.enter_version q).trans ho.begun.version
  rcases hqr with rfl | ⟨deletedBy, now, rfl⟩
  · have hd : (v.enter q).deletion = none := (v.enter_deletion q).trans ho.begun.deletion
    have hm : ((v.enter q).written s).mark = 0 :=
      Payment.mark_of_undeleted (Payment.isDeleted_of_no_deletion hd)
    show (v.enter q).version + 1 = 3 + Payment.mark ((v.enter q).written s)
    rw [hv, hm]
  · show (v.enter q).version + 1 + 1 = 3 + 1
    rw [hv]

theorem IsOwned.agrees {n : Nat} {x : Refunding} {q p : Payment} {v : Verdict} {s t : Instant}
    (ho : a.IsOwned i n x q (.ended v s t)) (hp : a.record = some p) : a.Agrees p := by
  have hversion := ho.version_ended hp
  have hcancels : a.cancels.length = 1 := by
    obtain ⟨c, hc, -⟩ := ho.asked nofun
    rw [hc]
    rfl
  obtain ⟨r, hr, hqr⟩ := ho.record
  cases hp.symm.trans hr
  have hevents := ho.events
  unfold Agrees
  rw [hqr.status]
  cases v with
  | made refundId at_ =>
    have hfull : ({ q.ledger with refunded := q.ledger.amount } : Ledger).isFullyRefunded = true :=
      decide_eq_true (Decimal.equiv_iff_units.2 rfl)
    rcases hqr with rfl | ⟨deletedBy, now, rfl⟩ <;>
      exact ⟨rfl, ⟨_, hevents, hfull, rfl, rfl, rfl⟩, hcancels, hversion⟩
  | failed cause =>
    rcases hqr with rfl | ⟨deletedBy, now, rfl⟩ <;>
      exact ⟨ho.begun.refunded, ⟨_, hevents, rfl, rfl⟩, hcancels, hversion⟩

/-- An account agrees when no refund of the payment is in flight and none was interrupted. -/
theorem Sound.agrees (h : a.Sound i) (hquiet : a.IsQuiet) (hint : a.interrupted = false)
    {p : Payment} (hp : a.record = some p) : a.Agrees p := by
  rcases h.standing with hf | ⟨n, x, q, g, ho⟩
  · exact hf.agrees hp
  · obtain ⟨o, hx⟩ := hquiet n x ho.owner
    rcases ho.of_done hx with ⟨v, deletedBy, deletedAt, rfl, -⟩ | ⟨v, s, t, rfl, -⟩
    · have hs := ho.isStuck_lost
      rw [← h.interrupted, hint] at hs
      cases hs
    · exact ho.agrees hp

end Account

/-! ## Nothing is interrupted -/

theorem Request.IsHarmless.interrupts {r : Request} (h : r.IsHarmless) (i : PaymentId) (n : Nat)
    (c : Call) (answer : r.Answer) : Exchange.interrupts i ⟨n, c, r, answer⟩ = false := by
  cases r with
  | store r =>
    cases r with
    | delete p deletedBy => exact False.elim h
    | _ => rfl
  | _ => rfl

theorem Request.Concerns.interrupts {r : Request} {j : PaymentId} (h : r.Concerns j)
    (i : PaymentId) (n : Nat) (c : Call) (answer : r.Answer) :
    Exchange.interrupts i ⟨n, c, r, answer⟩ = false := by
  cases r with
  | store r =>
    cases r with
    | delete p deletedBy => exact False.elim h
    | _ => rfl
  | _ => rfl

/-- A deletion interrupts a payment only in the middle of its refund. -/
theorem Store.Knows.interrupts_delete {s : Store} {p : Payment} (hp : s.Knows p) {i : PaymentId}
    {n : Nat} {c : Call} {deletedBy : String} {now : Instant}
    (h : Exchange.interrupts i
      ⟨n, c, .store (.delete p deletedBy), (s.delete p deletedBy now).1⟩ = true) :
    s.record? i = some p ∧ p.status = .refunding := by
  rcases Store.update_of_copy (p := p.markDeleted deletedBy now) now hp rfl rfl with
    ⟨f, hf⟩ | ⟨j, hj, hrec, hok⟩
  · rw [show s.delete p deletedBy now = _ from hf] at h
    cases h
  · rw [show s.delete p deletedBy now = _ from hok] at h
    obtain ⟨hid, hs⟩ := Bool.and_eq_true_iff.1 h
    have hji : some j = some i := hj.symm.trans (beq_iff_eq.1 hid)
    cases hji
    exact ⟨hrec, beq_iff_eq.1 hs⟩

namespace Traffic

variable {t : Traffic} {n : Nat} {c : Call}

/-- Only a deletion interrupts, and only a payment in the middle of its refund. -/
theorem Sound.interrupts (h : t.Sound) {r : Request}
    {next : r.Answer → Procedure (Outcome c.Result)}
    (hn : t.activities[n]? = some ⟨c, .ask r next⟩) (cue : Cue) {i : PaymentId}
    (hx : Exchange.interrupts i ⟨n, c, r, (cue.answer t.store r).1⟩ = true) :
    (∀ rest, Activity.refund? i ⟨c, rest⟩ = none) ∧
      ∃ p, t.store.record? i = some p ∧ p.status = .refunding := by
  have hfits := h.fits n _ hn
  cases c with
  | refund paymentId orderId reason =>
    obtain ⟨j, rfl⟩ := hfits.exists_refunded
    have hj := (account_refunds hn j).trans (Activity.refund?_refund j orderId reason _)
    rw [((h.accounts j).concerns hj).interrupts] at hx
    cases hx
  | delete paymentId deletedBy =>
    refine ⟨fun _ => rfl, ?_⟩
    rcases hfits.deletes with ⟨j, hr⟩ | ⟨p, hp, hd, hr⟩
    · cases hr
      cases hx
    · cases hr
      exact ⟨p, hp.interrupts_delete hx⟩
  | register | find | findByOrder | findByGatewayPayment | search | isVerified | isRefundable =>
    rw [hfits.1.interrupts] at hx
    cases hx

/-- No call is in flight, and no refund was ever interrupted. -/
structure Rested (t : Traffic) : Prop where
  sound : t.Sound
  quiet : t.IsQuiet
  uninterrupted : ∀ i, t.interrupted i = false

theorem rested_start : start.Rested where
  sound := sound_start
  quiet := fun _ h => (nomatch h)
  uninterrupted := fun _ => rfl

theorem Rested.agrees (h : t.Rested) {i : PaymentId} {p : Payment}
    (hp : t.store.record? i = some p) : (t.account i).Agrees p := by
  exact (h.sound.accounts i).agrees (h.quiet.account i) (h.uninterrupted i) hp

/-- An answer to the only call in flight interrupts no refund. -/
theorem Sound.uninterrupted_answer (h : t.Sound) {r : Request}
    {next : r.Answer → Procedure (Outcome c.Result)}
    (hn : t.activities[n]? = some ⟨c, .ask r next⟩) (cue : Cue)
    (hothers : ∀ (m : Nat) (a : Activity), m ≠ n → t.activities[m]? = some a → a.IsOver)
    {i : PaymentId} (hint : t.interrupted i = false) :
    (t.step (.answer n cue)).interrupted i = false := by
  show ((t.step (.answer n cue)).account i).interrupted = false
  rw [account_answer hn]
  show (t.interrupted i || Exchange.interrupts i _) = false
  rw [hint, Bool.false_or]
  cases hx : Exchange.interrupts i ⟨n, c, r, (cue.answer t.store r).1⟩ with
  | false => rfl
  | true =>
    obtain ⟨hc, p, hp, hs⟩ := h.interrupts hn cue hx
    -- all refunds of the payment have returned, so it would have been interrupted before
    have hquiet : (t.account i).IsQuiet := by
      intro m x hm
      -- the call that was answered is no refund of the payment
      have hmn : m ≠ n := by
        rintro rfl
        cases ((account_refunds hn i).trans (hc _)).symm.trans hm
      exact hothers m _ hmn (activity_of_refunds hm)
    exact (((h.accounts i).refunding_iff hquiet hp).1 hs).symm.trans hint

/-- Serving the only call in flight to its end leaves nothing in flight. -/
theorem Sound.rested_serve {p : Procedure (Outcome c.Result)} (h : t.Sound)
    (hn : t.activities[n]? = some ⟨c, p⟩)
    (hothers : ∀ (m : Nat) (a : Activity), m ≠ n → t.activities[m]? = some a → a.IsOver)
    (hint : ∀ i, t.interrupted i = false) (cues : Nat → Cue) : (serve n p cues t).Rested := by
  induction p generalizing t cues with
  | done o =>
    refine ⟨h, ?_, hint⟩
    intro a ha
    obtain ⟨m, hm⟩ := List.mem_iff_getElem?.1 ha
    by_cases hmn : m = n
    · subst hmn
      cases hn.symm.trans hm
      exact ⟨o, rfl⟩
    · exact hothers m a hmn hm
  | ask r next ih =>
    have hlt := (List.getElem?_eq_some_iff.1 hn).1
    refine ih _ (h.answer n (cues 0)) ?_ ?_ ?_ fun k => cues (k + 1)
    · rw [step_answer hn]
      exact List.getElem?_set_self hlt
    · intro m a hmn ha
      rw [step_answer hn] at ha
      exact hothers m a hmn ((List.getElem?_set_ne (Ne.symm hmn)).symm.trans ha)
    · exact fun i => h.uninterrupted_answer hn (cues 0) hothers (hint i)

theorem Rested.perform (h : t.Rested) (c : Call) (cues : Nat → Cue) :
    (t.perform c cues).Rested := by
  -- the call that comes in is the last, and all before it have returned
  refine (h.sound.call c).rested_serve List.getElem?_concat_length ?_ h.uninterrupted cues
  intro m a hm ha
  rcases Nat.lt_or_gt_of_ne hm with hlt | hgt
  · exact h.quiet a (List.mem_of_getElem? ((List.getElem?_append_left hlt).symm.trans ha))
  · have hlen : m < (t.activities ++ [Activity.begin c]).length :=
      (List.getElem?_eq_some_iff.1 ha).1
    rw [List.length_append] at hlen
    exact absurd hgt (Nat.not_lt.2 (Nat.le_of_lt_succ hlen))

theorem rested_inTurn (calls : List (Call × (Nat → Cue))) : (inTurn calls).Rested := by
  -- a call after the first finds a rested store, not an empty one
  suffices h : ∀ t : Traffic, t.Rested → (calls.foldl (fun t x => t.perform x.1 x.2) t).Rested from
    h start rested_start
  induction calls with
  | nil => exact fun _ ht => ht
  | cons x xs ih => exact fun t ht => ih _ (ht.perform x.1 x.2)

/-- After calls in turn the store, the listeners and the gateway agree about every stored payment,
deleted or not. -/
theorem agrees_in_turn (calls : List (Call × (Nat → Cue))) {i : PaymentId} {p : Payment}
    (hp : (inTurn calls).store.record? i = some p) :
    p.id = some i ∧ ((inTurn calls).account i).Agrees p := by
  have h := rested_inTurn calls
  exact ⟨h.sound.filed i p hp, h.agrees hp⟩

/-- A payment is registered, refunded and deleted. -/
def sampleCalls : List (Call × (Nat → Cue)) :=
  [(.register Sample.registration, fun _ => Sample.cue),
    (.refund Sample.identity.text "order-1" "changed my mind", fun _ => Sample.cue),
    (.delete Sample.identity.text "operator", fun _ => Sample.cue)]

theorem agrees_in_turn_sample :
    ∃ p, (inTurn sampleCalls).store.record? Sample.identity = some p ∧
      p.status = .refunded ∧ p.version = 4 ∧
      ((inTurn sampleCalls).account Sample.identity).Agrees p := by
  have h : ((inTurn sampleCalls).store.record? Sample.identity).map
      (fun p => (p.status, p.version)) = some (.refunded, 4) := by
    decide
  obtain ⟨p, hp, hs⟩ := Option.map_eq_some_iff.1 h
  exact ⟨p, hp, congrArg Prod.fst hs, congrArg Prod.snd hs, (agrees_in_turn sampleCalls hp).2⟩

end Traffic

end Payments
