import Payments.Proofs.Store.Clients
import Payments.Proofs.Store.Indexes

/-!
# Payments.Proofs.Store.Lookups -- look-ups of a store that many clients write to

Whatever clients do to a store, it advances lawfully: who writes back a copy gets his way only if
the copy is the record, and the steps of a payment's life leave its keys alone. So the indexes of
the store always list its records, and every look-up by a key answers as a scan of all records would
(`Clients.lookups_agree_with_scans`).
-/

namespace Payments

open Payment

/-- The store `s'` answers every look-up by a key as the store `s` does. -/
structure Store.AnswersAs (s' s : Store) : Prop where
  byId : ∀ i, s'.findById i = s.findById i
  byOrder : ∀ o, s'.findByOrder o = s.findByOrder o
  byGatewayPayment : ∀ g, s'.findByGatewayPayment g = s.findByGatewayPayment g
  holdsOrder : ∀ o, s'.holdsOrder o = s.holdsOrder o
  holdsGatewayPayment : ∀ g, s'.holdsGatewayPayment g = s.holdsGatewayPayment g

theorem Store.AnswersAs.of_eq {s s' : Store} (h : s' = s) : s'.AnswersAs s := by
  subst h
  constructor <;> exact fun _ => rfl

namespace Clients

/-- What a client can hand to the store: a payment that was just created, or a copy that the store
gave out, with any steps tried on it. -/
inductive CanHandIn (c : Clients) : Payment → Prop where
  | created {orderId : String} {amount : Decimal} {reference : Gateway.Reference} {payer : Payer}
      {payee : Payee} {createdAt : Instant} {p : Payment}
      (h : create orderId amount reference payer payee createdAt = .ok p)
      (steps : List Transition) : c.CanHandIn (p.attemptAll steps)
  | copied {client : Nat} {p : Payment} (h : (client, p) ∈ c.copies) (steps : List Transition) :
      c.CanHandIn (p.attemptAll steps)

variable {c : Clients}

/-- Whatever was just created has no identity and was never written, also after steps. -/
theorem new_of_create {orderId : String} {amount : Decimal} {reference : Gateway.Reference}
    {payer : Payer} {payee : Payee} {createdAt : Instant} {p : Payment}
    (h : create orderId amount reference payer payee createdAt = .ok p) (steps : List Transition) :
    (p.attemptAll steps).id = none ∧ (p.attemptAll steps).version = 0 := by
  have origin := p.sameOrigin_attemptAll steps
  obtain ⟨ledger, -, rfl⟩ := create_eq_ok h
  exact ⟨origin.id, origin.version⟩

/-! ## Every turn is an advance -/

theorem advances_save {copy : Payment} (steps : List Transition) (fresh : PaymentId)
    (now : Instant) (hk : c.store.Knows copy) :
    c.store.Advances (c.store.save (copy.attemptAll steps) fresh now).2 := by
  have origin := copy.sameOrigin_attemptAll steps
  obtain ⟨i, q, hi, -⟩ := id hk
  rw [Store.save_of_id fresh now (origin.id.trans hi)]
  exact Store.advances_update now hk origin.id origin.version origin.sameKeys

theorem advances_delete {copy : Payment} (steps : List Transition) (deletedBy : String)
    (now : Instant) (hk : c.store.Knows copy) :
    c.store.Advances (c.store.delete (copy.attemptAll steps) deletedBy now).2 := by
  have origin := copy.sameOrigin_attemptAll steps
  exact Store.advances_update now hk origin.id origin.version
    ⟨origin.orderId, origin.gatewayPaymentId⟩

theorem advances_add {p : Payment} {fresh : PaymentId} (now : Instant) (hi : p.id = none)
    (hv : p.version = 0) (hf : c.store.record? fresh = none) :
    c.store.Advances (c.store.save p fresh now).2 := by
  rw [Store.save_of_no_id fresh now hi]
  exact Store.advances_insert now hv hf

/-- One turn advances the store. -/
theorem Sound.advances (hc : c.Sound) (t : Turn) : c.store.Advances (c.step t).store := by
  obtain ⟨client, act, now, supply⟩ := t
  cases act with
  | add orderId amount reference payer payee createdAt steps =>
    cases hp : create orderId amount reference payer payee createdAt with
    | error f =>
      simp only [Clients.step, hp]
      exact .stay
    | ok p =>
      simp only [Clients.step, hp]
      obtain ⟨hi, hv⟩ := new_of_create hp steps
      exact advances_add now hi hv (supply c.store).2
  | save copy steps =>
    cases hp : c.copy? client copy with
    | none =>
      simp only [Clients.step, hp]
      exact .stay
    | some p =>
      simp only [Clients.step, hp]
      exact advances_save steps _ now (hc.knows_copy hp)
  | delete copy steps deletedBy =>
    cases hp : c.copy? client copy with
    | none =>
      simp only [Clients.step, hp]
      exact .stay
    | some p =>
      simp only [Clients.step, hp]
      exact advances_delete steps deletedBy now (hc.knows_copy hp)
  | look l => exact .stay

/-- After any turns the indexes list the records. -/
theorem indexed_after (turns : List Turn) : (after turns).store.Indexed := by
  -- the induction carries the soundness of the history, which every advance relies on
  suffices h : ∀ c : Clients, c.Sound → c.store.Indexed → (turns.foldl step c).store.Indexed from
    h start Sound.ofStart Store.indexed_empty
  induction turns with
  | nil => exact fun _ _ hc => hc
  | cons t ts ih => exact fun c hc hindexed => ih _ (hc.step t) (hindexed.advance (hc.advances t))

/-! ## Refused writes -/

theorem Lawful.after_eq {w : Write} (h : Lawful w) {f : Failure} (hf : w.outcome = .error f) :
    w.after = w.before := by
  rcases h with ⟨-, hs⟩ | ⟨i, p, hp, -⟩
  · exact hs
  · cases hp.symm.trans hf

/-- A payment without identity cannot be deleted. -/
theorem delete_of_no_id (s : Store) {p : Payment} (hi : p.id = none) (deletedBy : String)
    (now : Instant) :
    s.delete p deletedBy now = (refuse (.paymentNotFound "unsaved payment"), s) := by
  have hc : s.checkCurrent (p.markDeleted deletedBy now) =
      refuse (.paymentNotFound "unsaved payment") := by
    simp [Store.checkCurrent, markDeleted, hi]
  simp only [Store.delete, Store.update, hc, refuse]

theorem Sound.save_refused (hc : c.Sound) {p : Payment} (hp : c.CanHandIn p) {fresh : PaymentId}
    (hf : c.store.record? fresh = none) {now : Instant} {f : Failure}
    (h : (c.store.save p fresh now).1 = .error f) : (c.store.save p fresh now).2 = c.store := by
  cases hp with
  | created hcreate steps =>
    obtain ⟨hi, hv⟩ := new_of_create hcreate steps
    exact (lawful_add now hi hv hf).after_eq h
  | copied hcopy steps => exact (lawful_save steps fresh now (hc.knows _ _ hcopy)).after_eq h

theorem Sound.delete_refused (hc : c.Sound) {p : Payment} (hp : c.CanHandIn p) {deletedBy : String}
    {now : Instant} {f : Failure} (h : (c.store.delete p deletedBy now).1 = .error f) :
    (c.store.delete p deletedBy now).2 = c.store := by
  cases hp with
  | created hcreate steps => rw [delete_of_no_id c.store (new_of_create hcreate steps).1]
  | copied hcopy steps => exact (lawful_delete steps deletedBy now (hc.knows _ _ hcopy)).after_eq h

/-! ## Look-ups and scans -/

/-- Whatever clients have done to a store:

* no two stored payments, deleted ones included, share an order or a gateway payment;
* each record is filed under its own identity;
* a look-up by identity, order or gateway payment shows the one payment that a scan of all records
  finds, or nothing, and a key counts as taken just when a scan finds it;
* and whatever a client hands in next, if it is refused, every look-up answers as before. -/
theorem lookups_agree_with_scans (turns : List Turn) :
    let c := after turns
    (c.store.records.values.map Payment.orderId).Nodup ∧
      (c.store.records.values.map fun p => p.reference.paymentId).Nodup ∧
      c.store.Filed ∧ c.store.AnswersByScan ∧
      ∀ p, c.CanHandIn p → ∀ now f,
        (∀ fresh, c.store.record? fresh = none → (c.store.save p fresh now).1 = .error f →
          (c.store.save p fresh now).2.AnswersAs c.store) ∧
        ∀ deletedBy, (c.store.delete p deletedBy now).1 = .error f →
          (c.store.delete p deletedBy now).2.AnswersAs c.store := by
  intro c
  have hsound : c.Sound := Sound.after turns
  have hindexed : c.store.Indexed := indexed_after turns
  refine ⟨?_, ?_, hindexed.filed, hindexed.answersByScan, ?_⟩
  · exact Store.nodup_map_values fun _ _ _ _ => hindexed.order.unique
  · exact Store.nodup_map_values fun _ _ _ _ => hindexed.gatewayPayment.unique
  · intro p hp now f
    constructor
    · intro fresh hfresh h
      exact .of_eq (hsound.save_refused hp hfresh h)
    · intro deletedBy h
      exact .of_eq (hsound.delete_refused hp h)

end Clients

end Payments
