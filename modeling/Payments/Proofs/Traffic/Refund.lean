import Payments.Proofs.Store.Queries
import Payments.Proofs.Traffic.Account

/-!
# Payments.Proofs.Traffic.Refund -- what an answer does to a refund and its account

A refund passes through seven points at which it waits for an answer: it looks for the payment, it
stores that it begins, it calls the gateway, it looks at the clock, it stores the verdict, it looks
at the clock again, and it announces what became of it. At each point the account of the payment
stays sound whatever the answer is (`Account.Sound.answer`).

Two of these points decide. Only a refund whose copy is the record itself gets past the storing of
its beginning, and then the account was free and is its own from now on. And the verdict is stored
unless the payment has been deleted in the meantime.
-/

namespace Payments

open Payment (Verdict)
open Service

/-- The requests that a refund of a payment may have. -/
def Request.Concerns (i : PaymentId) : Request → Prop
  | .store (.save p) => p.id = some i
  | .publish e => e.paymentId = i.text
  | .now | .store (.findById _) | .cancel _ _ => True
  | .store _ | .lookup _ => False

namespace Account

variable {i : PaymentId} {a : Account} {s : Store} {n : Nat} {orderId reason : String}

/-- The account after a refund of the payment was answered with `result` and goes on with `rest`. -/
def advance (a : Account) (i : PaymentId) (n : Nat) (orderId reason : String) (r : Request)
    (result : r.Answer × Store) (rest : Procedure (Outcome Payment)) : Account :=
  (a.hear i ⟨n, .refund i.text orderId reason, r, result.1⟩ result.2).turn n
    (some ⟨orderId, reason, rest⟩)

theorem advance_of_idle {r : Request} {result : r.Answer × Store}
    {rest : Procedure (Outcome Payment)} (hs : result.2.record? i = a.record)
    (hc : Exchange.cancels i ⟨n, .refund i.text orderId reason, r, result.1⟩ = [])
    (he : Exchange.events i ⟨n, .refund i.text orderId reason, r, result.1⟩ = [])
    (hi : Exchange.interrupts i ⟨n, .refund i.text orderId reason, r, result.1⟩ = false) :
    a.advance i n orderId reason r result rest = a.turn n (some ⟨orderId, reason, rest⟩) := by
  rw [advance, hear_of_idle hs hc he hi]

/-! ## Waiting -/

variable (orderId reason) in
/-- A refund looks for the payment. -/
theorem Sound.answer_looking (h : a.Sound i) (hs : s.record? i = a.record)
    (hn : a.NotOwnedBy i n) :
    (a.advance i n orderId reason (.store (.findById i)) (s.findById i, s)
      (found i orderId reason (s.findById i))).Sound i := by
  rw [advance_of_idle hs rfl rfl rfl]
  refine h.turn hn ?_
  cases hp : s.findById i with
  | none => exact Or.inr (Or.inr ⟨_, rfl⟩)
  | some p =>
    obtain ⟨hr, hd⟩ := Store.findById_eq_some.1 hp
    rw [hs] at hr
    rw [found]
    cases hb : beginRefund p i.text orderId reason with
    | error f => exact Or.inr (Or.inr ⟨f, rfl⟩)
    | ok x =>
      -- a refund can begin, so no other one has begun
      have hst : p.status.isRefundable = true := by
        cases hst : p.status.isRefundable with
        | true => rfl
        | false => exact absurd hb (beginRefund_of_not_refundable hst)
      have hopen := (h.isFree hr hst).isOpen p hr
      obtain ⟨hv, rfl⟩ := beginRefund_of_open hopen (h.filed p hr) hd hb
      exact Or.inr (Or.inl ⟨p, p, hv, hr, .refl p, rfl⟩)

/-- A refund that has found the payment stores that it begins. It gets its way only if what it found
is still the record. -/
theorem Sound.answer_claiming (h : a.Sound i) (hs : s.record? i = a.record) {p r : Payment}
    (hp : p.IsVerifiedRecord i) (hr : a.record = some r) (hpr : p.Precedes r)
    (hn : a.NotOwnedBy i n) (fresh : PaymentId) (now : Instant) :
    let result := s.save (p.begun reason) fresh now
    (a.advance i n orderId reason (.store (.save (p.begun reason))) result
      (claimed p.ledger.amount reason result.1)).Sound i := by
  intro result
  have hsave : result = s.update (p.begun reason) now := Store.save_of_id _ _ hp.id
  have hknows : s.Knows p := ⟨i, r, hp.id, hs.trans hr, hpr⟩
  rw [hsave]
  rcases Store.update_of_copy (p := p.begun reason) now hknows rfl rfl with
    ⟨f, hf⟩ | ⟨j, hj, hrec, hok⟩
  · -- somebody has written the record since: the refund fails
    rw [hf, advance_of_idle hs rfl rfl rfl]
    exact h.turn hn (Or.inr (Or.inr ⟨f, rfl⟩))
  · -- what was found is the record, so the account is free
    cases hp.id.symm.trans hj
    rw [hs] at hrec
    have hst : p.status.isRefundable = true := by
      rw [hp.status]
      rfl
    rw [hok, advance, hear_of_silent rfl rfl, Store.record?_file_self]
    show Account.Sound i (Account.turn { a with
      record := some ((p.begun reason).written now)
      interrupted := a.interrupted || false } n _)
    rw [Bool.or_false]
    exact h.claim (h.isFree hrec hst) hrec (hp.begun reason now) (Nat.lt_succ_self _)

/-! ## Owning -/

variable {rest : Procedure (Outcome Payment)} {q : Payment}

/-- The gateway answers the owner. -/
theorem Sound.answer_calling (h : a.Sound i) (hs : s.record? i = a.record)
    (ho : a.IsOwned i n ⟨orderId, reason, rest⟩ q .calling) {key : String}
    (hkey : q.reference.paymentKey = some key)
    (answer : Except GatewayError Gateway.CancelAnswer) :
    (a.advance i n orderId reason (.cancel key (.full reason)) (answer, s)
      (answered q reason answer)).Sound i := by
  have hcancels : a.cancels = [] := by
    rcases ho.cancels with ⟨-, hc⟩ | ⟨c, -, -, hc⟩
    · exact hc
    · exact False.elim hc
  -- this is the first order to cancel, so from now on it is the only one
  have heard : a.cancels ++ Exchange.cancels i
      ⟨n, .refund i.text orderId reason, .cancel key (.full reason), answer⟩ =
        [⟨n, key, .full reason, answer⟩] := by
    rw [hcancels, List.nil_append]
    show (if (i.text == i.text) = true then _ else _) = _
    rw [if_pos (beq_self_eq_true _)]
  have hgiven : Cancel.IsGivenBy ⟨n, key, .full reason, answer⟩ n q reason := ⟨rfl, hkey, rfl⟩
  have hevents := (List.append_nil _).trans ho.events
  unfold advance answered
  cases hid : answer >>= refundId with
  | ok refundId =>
    exact h.move ho (.made refundId) rfl hs (Bool.or_false _) rfl ho.record
      ⟨_, heard, hgiven, hid⟩ hevents
  | error e =>
    exact h.move ho (.settling (.failed (.gateway e))) rfl hs (Bool.or_false _) rfl ho.record
      ⟨_, heard, hgiven, e, hid, rfl⟩ hevents

/-- The owner looks at the clock to enter the refund that the gateway has made. -/
theorem Sound.answer_made (h : a.Sound i) (hs : s.record? i = a.record) {refundId : String}
    (ho : a.IsOwned i n ⟨orderId, reason, rest⟩ q (.made refundId)) (now : Instant) :
    (a.advance i n orderId reason .now (now, s)
      (settling (.made refundId now) q reason)).Sound i := by
  rw [advance_of_idle hs rfl rfl rfl]
  exact h.move ho (.settling (.made refundId now)) rfl rfl rfl rfl ho.record (ho.asked nofun)
    ho.events

/-- The owner stores the verdict, unless the payment has been deleted since. -/
theorem Sound.answer_settling (h : a.Sound i) (hs : s.record? i = a.record) {v : Verdict}
    (ho : a.IsOwned i n ⟨orderId, reason, rest⟩ q (.settling v)) (fresh : PaymentId)
    (now : Instant) :
    let result := s.save (v.enter q) fresh now
    (a.advance i n orderId reason (.store (.save (v.enter q))) result
      (settled v reason q.ledger.amount result.1)).Sound i := by
  intro result
  have hid : (v.enter q).id = some i := (v.enter_id q).trans ho.begun.id
  have hversion : (v.enter q).version = q.version := v.enter_version q
  have hsave : result = s.update (v.enter q) now := Store.save_of_id _ _ hid
  rw [hsave]
  obtain ⟨r, hr, hqr⟩ := ho.record
  rcases hqr with hrq | ⟨deletedBy, deletedAt, rfl⟩
  · -- the record is as the refund left it
    have hr : a.record = some q := hr.trans (congrArg some hrq)
    have hlt : (v.enter q).version + 1 < twoTo 64 := by
      rw [hversion, ho.begun.version]
      decide
    rw [Store.update_of_current now hid (hs.trans hr) hversion.symm hlt, advance,
      hear_of_silent rfl rfl, Store.record?_file_self]
    show Account.Sound i (Account.turn { a with
      record := some ((v.enter q).written now)
      interrupted := a.interrupted || false } n _)
    rw [Bool.or_false]
    exact h.settle ho hr now
  · -- the deletion has counted the version up
    have hstale : q.version + 1 ≠ (v.enter q).version := by
      rw [hversion]
      exact Nat.succ_ne_self _
    rw [Store.update_of_stale now hid (hs.trans hr) hstale, advance_of_idle hs rfl rfl rfl]
    exact h.move ho (.lost v deletedBy deletedAt) rfl rfl rfl rfl ⟨_, hr, Or.inl rfl⟩
      (ho.asked nofun) ho.events

/-- The owner looks at the clock to announce what became of the refund. -/
theorem Sound.answer_dating (h : a.Sound i) (hs : s.record? i = a.record) {v : Verdict}
    {storedAt : Instant} (ho : a.IsOwned i n ⟨orderId, reason, rest⟩ q (.dating v storedAt))
    (now : Instant) :
    let saved := (v.enter q).written storedAt
    (a.advance i n orderId reason .now (now, s)
      (announcing v saved (v.announcement saved q.ledger.amount reason now))).Sound i := by
  intro saved
  rw [advance_of_idle hs rfl rfl rfl]
  exact h.move ho (.announcing v storedAt now) rfl rfl rfl rfl ho.record (ho.asked nofun) ho.events

/-- The owner announces what became of the refund. -/
theorem Sound.answer_announcing (h : a.Sound i) (hs : s.record? i = a.record) {v : Verdict}
    {storedAt announcedAt : Instant}
    (ho : a.IsOwned i n ⟨orderId, reason, rest⟩ q (.announcing v storedAt announcedAt))
    (heard : Except PaymentError Unit) :
    let saved := (v.enter q).written storedAt
    let e := v.announcement saved q.ledger.amount reason announcedAt
    (a.advance i n orderId reason (.publish e) (heard, s) (.done (v.result saved))).Sound i := by
  intro saved e
  have hid : saved.id = some i := (v.enter_id q).trans ho.begun.id
  have he : a.events ++ Exchange.events i ⟨n, .refund i.text orderId reason, .publish e, heard⟩ =
      [e] := by
    rw [show a.events = [] from ho.events, List.nil_append]
    exact if_pos (v.paymentId_announcement hid q.ledger.amount reason announcedAt)
  obtain ⟨c, hc, hasked⟩ := ho.asked nofun
  have hcancels : a.cancels ++ [] = [c] := by
    rw [List.append_nil, hc]
  exact h.move ho (.ended v storedAt announcedAt) rfl hs (Bool.or_false _) rfl ho.record
    ⟨c, hcancels, hasked⟩ he

/-! ## All points together -/

variable {r : Request} {next : r.Answer → Procedure (Outcome Payment)}

/-- What a refund of the payment asks has to do with no other payment. -/
theorem Sound.concerns (h : a.Sound i)
    (hn : a.refunds n = some ⟨orderId, reason, .ask r next⟩) : r.Concerns i := by
  rcases h.waits_or_owns hn with ⟨-, hw⟩ | ⟨q, g, ho⟩
  · rcases hw with hr | ⟨p, -, hp, -, -, hr⟩ | ⟨f, hr⟩
    · have hr : Procedure.ask r next = _ := hr.trans (run_refund i orderId reason)
      cases hr
      exact trivial
    · have hr : Procedure.ask r next = claiming (p.begun reason) p.ledger.amount reason := hr
      cases hr
      exact hp.id
    · cases hr
  · have hr : Procedure.ask r next = g.rest q reason i := ho.rest
    have hid (v : Verdict) : (v.enter q).id = some i := (v.enter_id q).trans ho.begun.id
    cases g with
    | calling =>
      obtain ⟨key, -, hcall⟩ := run_carryOut reason ho.begun
      cases hr.trans hcall
      exact trivial
    | settling v =>
      cases hr
      exact hid v
    | announcing v storedAt announcedAt =>
      cases hr
      exact v.paymentId_announcement (hid v) _ _ _
    | made | dating =>
      cases hr
      exact trivial
    | lost | ended => cases hr

/-- Whatever a refund of the payment asks next and whatever it is answered, the account stays sound.
-/
theorem Sound.answer (h : a.Sound i) (hs : s.record? i = a.record)
    (hn : a.refunds n = some ⟨orderId, reason, .ask r next⟩) (cue : Cue) :
    (a.advance i n orderId reason r (cue.answer s r) (next (cue.answer s r).1)).Sound i := by
  rcases h.waits_or_owns hn with ⟨hno, hw⟩ | ⟨q, g, ho⟩
  · rcases hw with hr | ⟨p, rec, hp, hrec, hpr, hr⟩ | ⟨f, hr⟩
    · have hr : Procedure.ask r next = _ := hr.trans (run_refund i orderId reason)
      cases hr
      exact h.answer_looking orderId reason hs hno
    · have hr : Procedure.ask r next = claiming (p.begun reason) p.ledger.amount reason := hr
      cases hr
      exact h.answer_claiming hs hp hrec hpr hno (cue.supply s) cue.now
    · cases hr
  · have hr : Procedure.ask r next = g.rest q reason i := ho.rest
    cases g with
    | calling =>
      obtain ⟨key, hkey, hcall⟩ := run_carryOut reason ho.begun
      cases hr.trans hcall
      exact h.answer_calling hs ho hkey (cue.cancel key (.full reason))
    | made refundId =>
      cases hr
      exact h.answer_made hs ho cue.now
    | settling v =>
      cases hr
      exact h.answer_settling hs ho (cue.supply s) cue.now
    | dating v storedAt =>
      cases hr
      exact h.answer_dating hs ho cue.now
    | announcing v storedAt announcedAt =>
      cases hr
      exact h.answer_announcing hs ho _
    | lost | ended => cases hr

end Account

end Payments
