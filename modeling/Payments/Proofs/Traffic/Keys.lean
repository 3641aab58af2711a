import Payments.Proofs.Store.Indexes
import Payments.Proofs.Traffic.Dialogue
import Payments.Proofs.Traffic.Soundness

/-!
# Payments.Proofs.Traffic.Keys -- orders and gateway payments, once stored, stay

Whatever calls overlap, the store advances lawfully: drafts are inserted under keys that are free,
and who writes back a record has left its keys alone. So the indexes list the records at any time,
and no record and no key ever goes.

What a call was told by the store is therefore true for good: a payment that it was shown or that it
stored is on record ever after (`Reply.Vouched`), and of a payment that was on record before, it is
never told that a key is free (`Reply.Heeds`).
-/

namespace Payments

open Service
open Payment (Verdict)

/-! ## Every request is lawful -/

theorem Payment.Verdict.enter_sameKeys (v : Verdict) (q : Payment) : q.SameKeys (v.enter q) := by
  cases v <;> exact ⟨rfl, rfl⟩

theorem Payment.UpToDeletion.precedes {p r : Payment} (h : p.UpToDeletion r) : p.Precedes r := by
  rcases h with h | ⟨deletedBy, now, rfl⟩
  · exact Or.inl h
  · exact Or.inr (Nat.lt_succ_self _)

/-- A call that does no harm inserts drafts at most. -/
theorem Request.IsHarmless.advances {r : Request} (hr : r.IsHarmless) (s : Store) (cue : Cue) :
    s.Advances (cue.answer s r).2 := by
  cases r with
  | now | lookup => exact .stay
  | cancel | publish => exact False.elim hr
  | store r =>
    cases r with
    | delete => exact False.elim hr
    | save p =>
      show s.Advances (s.save p (cue.supply s) cue.now).2
      rw [Store.save_of_no_id _ _ hr.id]
      exact Store.advances_insert cue.now hr.version (cue.supply s).2
    | findById | findByOrder | findByGatewayPayment | holdsGatewayPayment | holdsOrder | search =>
      exact .stay

/-- A refund writes back the payment that it has found or that it has stored itself. -/
theorem Account.Sound.advances {i : PaymentId} {a : Account} {s : Store} (h : a.Sound i)
    (hs : s.record? i = a.record) {n : Nat} {orderId reason : String} {r : Request}
    {next : r.Answer → Procedure (Outcome Payment)}
    (hn : a.refunds n = some ⟨orderId, reason, .ask r next⟩) (cue : Cue) :
    s.Advances (cue.answer s r).2 := by
  rcases h.waits_or_owns hn with ⟨-, hr | ⟨p, rec, hp, hrec, hpr, hr⟩ | ⟨f, hr⟩⟩ | ⟨q, g, ho⟩
  · have hr : Procedure.ask r next = _ := hr.trans (run_refund i orderId reason)
    cases hr
    exact .stay
  · have hr : Procedure.ask r next = claiming (p.begun reason) p.ledger.amount reason := hr
    cases hr
    show s.Advances (s.save (p.begun reason) (cue.supply s) cue.now).2
    rw [Store.save_of_id _ _ (p := p.begun reason) hp.id]
    exact Store.advances_update cue.now ⟨i, rec, hp.id, hs.trans hrec, hpr⟩ rfl rfl ⟨rfl, rfl⟩
  · cases hr
  · have hr : Procedure.ask r next = g.rest q reason i := ho.rest
    cases g with
    | calling =>
      obtain ⟨key, -, hcall⟩ := run_carryOut reason ho.begun
      cases hr.trans hcall
      exact .stay
    | settling v =>
      cases hr
      obtain ⟨rec, hrec, hqr⟩ := ho.record
      have hid : (v.enter q).id = some i := (v.enter_id q).trans ho.begun.id
      show s.Advances (s.save (v.enter q) (cue.supply s) cue.now).2
      rw [Store.save_of_id _ _ hid]
      exact Store.advances_update cue.now ⟨i, rec, ho.begun.id, hs.trans hrec, hqr.precedes⟩
        (v.enter_id q) (v.enter_version q) (v.enter_sameKeys q)
    | made | dating | announcing =>
      cases hr
      exact .stay
    | lost | ended => cases hr

namespace Traffic

variable {t : Traffic}

/-- Whatever happens, the store advances lawfully. -/
theorem Sound.advances (h : t.Sound) (m : Move) : t.store.Advances (t.step m).store := by
  rcases t.step_cases m with ⟨c, rfl⟩ | ⟨n, c, r, next, cue, rfl, hn⟩ | hstay
  · exact .stay
  · have hfits := h.fits n _ hn
    rw [step_answer hn]
    show t.store.Advances (cue.answer t.store r).2
    cases c with
    | refund paymentId orderId reason =>
      obtain ⟨i, rfl⟩ := hfits.exists_refunded
      exact (h.accounts i).advances rfl ((account_refunds hn i).trans
        (Activity.refund?_refund i orderId reason _)) cue
    | delete paymentId deletedBy =>
      rcases hfits.deletes with ⟨i, hr⟩ | ⟨p, hp, -, hr⟩
      · cases hr
        exact .stay
      · cases hr
        exact Store.advances_update cue.now hp rfl rfl ⟨rfl, rfl⟩
    | register | find | findByOrder | findByGatewayPayment | search | isVerified | isRefundable =>
      exact hfits.1.advances t.store cue
  · rw [hstay]
    exact .stay

/-- No record goes, and none changes its keys. -/
theorem Sound.keepsKeys (h : t.Sound) (moves : List Move) :
    t.store.KeepsKeys (moves.foldl Traffic.step t).store :=
  (steps_induction (P := fun s => s.Sound ∧ t.store.KeepsKeys s.store) ⟨h, .refl t.store⟩
    fun _ m _ hs => ⟨hs.1.step m, hs.2.trans (hs.1.advances m).keepsKeys⟩).2

end Traffic

/-! ## What the store has said stays true -/

namespace Reply

/-- What was said of payments that are stored is true of the store: they are on record, with the
keys that they were asked for or stored with. -/
structure Vouched (s : Store) (d : Reply) : Prop where
  shown : ∀ g p, d = ⟨.store (.findByGatewayPayment g), some p⟩ →
    s.HasOnRecord p ∧ p.reference.paymentId = g
  stored : ∀ q p, d = ⟨.store (.save q), .ok p⟩ → s.HasOnRecord p ∧ q.SameKeys p
  lost : ∀ (q : Payment) g, d = Reply.lost q g → g = q.reference.paymentId

/-- Who asks whether a key is taken is told so, if it was taken in the store. -/
structure Heeds (s : Store) (d : Reply) : Prop where
  gatewayPayment : ∀ g taken, d = ⟨.store (.holdsGatewayPayment g), taken⟩ →
    s.holdsGatewayPayment g = true → taken = true
  order : ∀ o taken, d = ⟨.store (.holdsOrder o), taken⟩ → s.holdsOrder o = true → taken = true

variable {s s' : Store} {d : Reply}

theorem Vouched.mono (h : d.Vouched s) (hs : s.KeepsKeys s') : d.Vouched s' where
  shown := fun g p hd => ⟨(h.shown g p hd).1.mono hs, (h.shown g p hd).2⟩
  stored := fun q p hd => ⟨(h.stored q p hd).1.mono hs, (h.stored q p hd).2⟩
  lost := h.lost

theorem vouched_answer (h : s.Indexed) (cue : Cue) (r : Request) :
    Vouched (cue.answer s r).2 ⟨r, (cue.answer s r).1⟩ where
  shown := by
    intro g p hd
    obtain ⟨rfl, ha⟩ := Reply.mk.inj hd
    obtain ⟨⟨i, hp⟩, hkey⟩ := h.gatewayPayment.bind_findById.1 (eq_of_heq ha)
    exact ⟨⟨i, p, h.filed i p hp, hp, .refl p⟩, beq_iff_eq.1 (Bool.and_eq_true_iff.1 hkey).1⟩
  stored := by
    intro q p hd
    obtain ⟨rfl, ha⟩ := Reply.mk.inj hd
    have ha : (s.save q (cue.supply s) cue.now).1 = .ok p := eq_of_heq ha
    show (s.save q (cue.supply s) cue.now).2.HasOnRecord p ∧ _
    rcases s.save_cases q (cue.supply s) cue.now with ⟨i, q', s', hok, hi, hkeys⟩ | ⟨f, s', hf, -⟩
    · rw [hok] at ha ⊢
      cases ha
      exact ⟨⟨i, p, hi, Store.record?_file_self s' i p, .refl p⟩, hkeys⟩
    · rw [hf] at ha
      cases ha
  lost := by
    intro q g hd
    obtain ⟨rfl, ha⟩ := Reply.mk.inj hd
    have ha : (s.save q (cue.supply s) cue.now).1 = _ := eq_of_heq ha
    rcases s.save_cases q (cue.supply s) cue.now with ⟨i, q', s', hok, -, -⟩ | ⟨f, s', hf, hg⟩
    · rw [hok] at ha
      cases ha
    · rw [hf] at ha
      cases ha
      exact hg g rfl

/-- What is asked now is answered with regard to every earlier state of the store. -/
theorem heeds_answer (hs : s.KeepsKeys s') (h : s.Indexed) (h' : s'.Indexed) (cue : Cue)
    (r : Request) : Heeds s ⟨r, (cue.answer s' r).1⟩ where
  gatewayPayment := by
    intro g taken hd hg
    obtain ⟨rfl, ha⟩ := Reply.mk.inj hd
    rw [← eq_of_heq ha]
    exact h.gatewayPayment.holds_of_keepsKeys h'.gatewayPayment hs
      (fun _ _ hpq => hpq.gatewayPayment) hg
  order := by
    intro o taken hd ho
    obtain ⟨rfl, ha⟩ := Reply.mk.inj hd
    rw [← eq_of_heq ha]
    exact h.order.holds_of_keepsKeys h'.order hs (fun _ _ hpq => hpq.orderId) ho

end Reply

namespace Traffic

variable {t : Traffic}

/-- What is in the log after a move was there before, or it was answered then. -/
theorem mem_log_step {x : Exchange} {m : Move} (hx : x ∈ (t.step m).log) :
    x ∈ t.log ∨ ∃ cue : Cue, (t.step m).store = (cue.answer t.store x.request).2 ∧
      x.answer = (cue.answer t.store x.request).1 := by
  rcases t.step_cases m with ⟨c, rfl⟩ | ⟨n, c, r, next, cue, rfl, hn⟩ | hstay
  · exact Or.inl hx
  · rw [step_answer hn] at hx ⊢
    rcases List.mem_append.1 hx with hx | hx
    · exact Or.inl hx
    · cases List.mem_singleton.1 hx
      exact Or.inr ⟨cue, rfl, rfl⟩
  · rw [hstay] at hx
    exact Or.inl hx

/-- The indexes list the records, and what the store has said of stored payments is true. -/
structure Truthful (t : Traffic) : Prop where
  sound : t.Sound
  indexed : t.store.Indexed
  vouched : ∀ x ∈ t.log, x.reply.Vouched t.store

theorem truthful_start : start.Truthful where
  sound := sound_start
  indexed := Store.indexed_empty
  vouched := fun _ hx => (nomatch hx)

theorem Truthful.step (h : t.Truthful) (m : Move) : (t.step m).Truthful where
  sound := h.sound.step m
  indexed := h.indexed.advance (h.sound.advances m)
  vouched := by
    intro x hx
    rcases mem_log_step hx with hx | ⟨cue, hstore, hanswer⟩
    · exact (h.vouched x hx).mono (h.sound.advances m).keepsKeys
    · rw [hstore, Exchange.reply, hanswer]
      exact Reply.vouched_answer h.indexed cue x.request

/-- What the store has said of payments that are stored stays true. -/
theorem truthful_after (moves : List Move) : (after moves).Truthful :=
  steps_induction truthful_start fun _ m _ h => h.step m

/-- Whoever asks after keys from now on is told of those that are taken now. -/
theorem Truthful.heeds (h : t.Truthful) (moves : List Move) :
    ∀ x ∈ (moves.foldl Traffic.step t).log, x ∈ t.log ∨ x.reply.Heeds t.store := by
  refine (steps_induction (P := fun s => s.Truthful ∧ t.store.KeepsKeys s.store ∧
    ∀ x ∈ s.log, x ∈ t.log ∨ x.reply.Heeds t.store) ⟨h, .refl t.store, fun _ => Or.inl⟩ ?_).2.2
  rintro s m - ⟨hs, hkeeps, hlog⟩
  refine ⟨hs.step m, hkeeps.trans (hs.sound.advances m).keepsKeys, ?_⟩
  intro x hx
  rcases mem_log_step hx with hx | ⟨cue, -, hanswer⟩
  · exact hlog x hx
  · rw [Exchange.reply, hanswer]
    exact Or.inr (Reply.heeds_answer hkeeps h.indexed hs.indexed cue x.request)

end Traffic

end Payments
