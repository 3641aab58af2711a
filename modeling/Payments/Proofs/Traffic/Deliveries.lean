import Payments.Proofs.Service.Registering
import Payments.Proofs.Traffic.Keys

/-!
# Payments.Proofs.Traffic.Deliveries -- one registration, delivered several times

Suppose that all calls are the same registration. Then the store is in one of two states: nothing is
stored, or one payment is. Every reply of the store tells which (`Reply.Tells`), and what a delivery
asks to be stored is inserted in the first state and refused in the second. `Traffic.Delivered` says
this of everything that stands in the log.
-/

namespace Payments

open Service (Describes)

/-! ## The store of one registration -/

namespace Store

variable {s : Store} {r : Registration}

/-- Whatever is stored is a payment of the registration, and has not been deleted. -/
def IsFor (s : Store) (r : Registration) : Prop :=
  ∀ i p, s.record? i = some p →
    p.reference.paymentId = r.gatewayPaymentId ∧ p.orderId = r.orderId ∧ p.isDeleted = false

/-- The order is taken when the gateway payment is. -/
theorem IsFor.holdsOrder (h : s.IsFor r) (hs : s.Indexed) :
    s.holdsOrder r.orderId = s.holdsGatewayPayment r.gatewayPaymentId := by
  rw [Bool.eq_iff_iff]
  refine (hs.order.holds_iff _).trans (Iff.trans ?_ (hs.gatewayPayment.holds_iff _).symm)
  constructor
  · rintro ⟨i, p, hp, -⟩
    exact ⟨i, p, hp, (h i p hp).1⟩
  · rintro ⟨i, p, hp, -⟩
    exact ⟨i, p, hp, (h i p hp).2.1⟩

/-- The payment is found when it is stored. -/
theorem IsFor.isSome_find (h : s.IsFor r) (hs : s.Indexed) :
    (s.findByGatewayPayment r.gatewayPaymentId).isSome =
      s.holdsGatewayPayment r.gatewayPaymentId := by
  rw [Bool.eq_iff_iff, Option.isSome_iff_exists]
  refine Iff.trans ?_ (hs.gatewayPayment.holds_iff _).symm
  constructor
  · rintro ⟨p, hp⟩
    obtain ⟨⟨i, hi⟩, -⟩ := hs.gatewayPayment.bind_findById.1 hp
    exact ⟨i, p, hi, (h i p hi).1⟩
  · rintro ⟨i, p, hp, hkey⟩
    refine ⟨p, hs.gatewayPayment.bind_findById.2 ⟨⟨i, hp⟩, ?_⟩⟩
    rw [hkey, (h i p hp).2.2, beq_self_eq_true]
    rfl

/-- No two payments are stored. -/
theorem IsFor.values (h : s.IsFor r) (hs : s.Indexed) {i : PaymentId} {p : Payment}
    (hp : s.record? i = some p) : s.records.values = [p] := by
  have hscan : (some p).toList = s.scan fun _ => true := hs.toList_eq_scan fun q => by
    constructor
    · rintro ⟨⟩
      exact ⟨⟨i, hp⟩, rfl⟩
    · rintro ⟨⟨j, hq⟩, -⟩
      have hij := hs.gatewayPayment.unique hp hq ((h i p hp).1.trans (h j q hq).1.symm)
      subst hij
      exact hp.symm.trans hq
  rw [scan, List.filter_eq_self.2 fun _ _ => rfl] at hscan
  exact hscan.symm

variable {v : Payment} {fresh : PaymentId}

/-- What a delivery saves is inserted if nothing is stored, and refused if something is. -/
theorem IsFor.save (h : s.IsFor r) (hs : s.Indexed) (hv : Describes r v) (now : Instant) :
    s.save v fresh now =
      if s.holdsGatewayPayment r.gatewayPaymentId then
        (refuse (.duplicateGatewayPayment r.gatewayPaymentId), s)
      else (.ok (v.inserted fresh now), (s.reserve v fresh).file fresh (v.inserted fresh now)) := by
  have horder := h.holdsOrder hs
  rw [← hv.orderId, ← hv.gatewayPayment] at horder
  rw [save_of_no_id fresh now hv.draft.id, ← hv.gatewayPayment]
  cases hg : s.holdsGatewayPayment v.reference.paymentId with
  | true => exact insert_of_taken fresh now hg
  | false => exact insert_of_free fresh now hv.draft.version hg (horder.trans hg)

theorem IsFor.inserted (h : s.IsFor r) (hv : Describes r v) (now : Instant) :
    ((s.reserve v fresh).file fresh (v.inserted fresh now)).IsFor r := by
  intro i p hp
  rw [record?_file] at hp
  split at hp
  · cases hp
    exact ⟨hv.gatewayPayment, hv.orderId, Payment.isDeleted_of_no_deletion hv.draft.deletion⟩
  · exact h i p hp

end Store

/-! ## What the deliveries are told -/

/-- Whether a payment was stored. -/
def Exchange.stores : Exchange → Bool
  | ⟨_, _, .store (.save _), .ok _⟩ => true
  | _ => false

/-- Only what a delivery stores changes the store. -/
theorem Store.IsFor.answer {s : Store} {r : Registration} (h : s.IsFor r) (hs : s.Indexed)
    {q : Request} (hq : q.IsHarmless) (hv : ∀ v, q = .store (.save v) → Describes r v)
    (cue : Cue) (n : Nat) (c : Call) :
    (cue.answer s q).2.IsFor r ∧
      (s.holdsGatewayPayment r.gatewayPaymentId ||
          Exchange.stores ⟨n, c, q, (cue.answer s q).1⟩) =
        (cue.answer s q).2.holdsGatewayPayment r.gatewayPaymentId := by
  cases q with
  | now | lookup => exact ⟨h, Bool.or_false _⟩
  | cancel | publish => exact False.elim hq
  | store q =>
    cases q with
    | delete => exact False.elim hq
    | save v =>
      have hdescribes := hv v rfl
      have hsave : cue.answer s (.store (.save v)) = _ := h.save hs hdescribes cue.now
      rw [hsave]
      cases hstored : s.holdsGatewayPayment r.gatewayPaymentId with
      | true =>
        simp only [if_true]
        exact ⟨h, hstored.symm⟩
      | false =>
        simp only [Bool.false_eq_true, if_false]
        refine ⟨h.inserted hdescribes cue.now, ?_⟩
        -- the gateway payment has just been taken
        show true = (s.byGatewayPayment.put v.reference.paymentId _).holds r.gatewayPaymentId
        rw [← hdescribes.gatewayPayment, Table.holds, Table.get?_put, if_pos rfl]
        rfl
    | findById | findByOrder | findByGatewayPayment | holdsGatewayPayment | holdsOrder | search =>
      exact ⟨h, Bool.or_false _⟩

/-- The reply tells whether the payment of the registration is stored. -/
structure Reply.Tells (r : Registration) (stored : Bool) (d : Reply) : Prop where
  found : ∀ o, d = ⟨.store (.findByGatewayPayment r.gatewayPaymentId), o⟩ → o.isSome = stored
  gatewayPayment : ∀ taken, d = ⟨.store (.holdsGatewayPayment r.gatewayPaymentId), taken⟩ →
    taken = stored
  order : ∀ taken, d = ⟨.store (.holdsOrder r.orderId), taken⟩ → taken = stored
  saved : ∀ v o, d = ⟨.store (.save v), o⟩ →
    if stored then o = refuse (.duplicateGatewayPayment r.gatewayPaymentId)
    else ∃ p, o = .ok p

/-- A delivery fails to store its payment only because the payment is stored. -/
theorem Reply.Tells.saved_error {r : Registration} {stored : Bool} {v : Payment} {f : Failure}
    (h : Reply.Tells r stored ⟨.store (.save v), .error f⟩) :
    stored = true ∧ f = .refused (.duplicateGatewayPayment r.gatewayPaymentId) := by
  have hsave := h.saved v _ rfl
  cases stored with
  | true =>
    cases hsave
    exact ⟨rfl, rfl⟩
  | false =>
    obtain ⟨p, hp⟩ := hsave
    cases hp

theorem Reply.tells_answer {s : Store} {r : Registration} (h : s.IsFor r) (hs : s.Indexed)
    {q : Request} (hq : ∀ v, q = .store (.save v) → Describes r v) (cue : Cue) :
    Reply.Tells r (s.holdsGatewayPayment r.gatewayPaymentId) ⟨q, (cue.answer s q).1⟩ where
  found := by
    intro o hd
    obtain ⟨rfl, ho⟩ := Reply.mk.inj hd
    rw [← eq_of_heq ho]
    exact h.isSome_find hs
  gatewayPayment := by
    intro taken hd
    obtain ⟨rfl, ht⟩ := Reply.mk.inj hd
    exact (eq_of_heq ht).symm
  order := by
    intro taken hd
    obtain ⟨rfl, ht⟩ := Reply.mk.inj hd
    rw [← eq_of_heq ht]
    exact h.holdsOrder hs
  saved := by
    intro v o hd
    obtain ⟨rfl, ho⟩ := Reply.mk.inj hd
    have ho : (s.save v (cue.supply s) cue.now).1 = o := eq_of_heq ho
    rw [h.save hs (hq v rfl)] at ho
    split
    · next hstored =>
      rw [if_pos hstored] at ho
      exact ho.symm
    · next hstored =>
      rw [if_neg hstored] at ho
      exact ⟨_, ho.symm⟩

namespace Move

/-- Whether the move is a delivery of the registration, or an answer. -/
def delivers (r : Registration) : Move → Bool
  | call (.register r') => r' == r
  | call _ => false
  | answer _ _ => true

theorem eq_of_delivers {r : Registration} {c : Call} (h : (call c).delivers r = true) :
    c = .register r := by
  cases c with
  | register r' => rw [beq_iff_eq.1 h]
  | _ => cases h

end Move

namespace Traffic

variable {t : Traffic} {r : Registration} {n : Nat}

/-- All calls are deliveries of the registration, and every reply tells whether its payment had been
stored by then. -/
structure Delivered (r : Registration) (t : Traffic) : Prop where
  calls : ∀ (n : Nat) (a : Activity), t.activities[n]? = some a → a.call = .register r
  records : t.store.IsFor r
  stored : t.log.any Exchange.stores = t.store.holdsGatewayPayment r.gatewayPaymentId
  told : ∀ earlier x later, t.log = earlier ++ x :: later →
    x.reply.Tells r (earlier.any Exchange.stores)

theorem delivered_start (r : Registration) : start.Delivered r where
  calls := fun _ _ h => (nomatch h)
  records := fun _ _ h => (nomatch h)
  stored := rfl
  told := by
    intro earlier x later h
    cases List.append_eq_nil_iff.1 h.symm |>.2

theorem Delivered.call (h : t.Delivered r) : (t.step (.call (.register r))).Delivered r where
  calls := by
    intro n a ha
    rcases List.mem_append.1 (List.mem_of_getElem? ha) with hm | hm
    · obtain ⟨m, hm⟩ := List.mem_iff_getElem?.1 hm
      exact h.calls m a hm
    · rw [List.mem_singleton.1 hm]
      rfl
  records := h.records
  stored := h.stored
  told := h.told

variable {q : Request} {next : q.Answer → Procedure (Outcome Payment)}

theorem Delivered.answer (h : t.Delivered r) (ht : t.Truthful) (hr : t.Recorded)
    (hn : t.activities[n]? = some ⟨.register r, .ask q next⟩) (cue : Cue) :
    (t.step (.answer n cue)).Delivered r := by
  have hv (v : Payment) (hq : q = .store (.save v)) : Describes r v := by
    subst hq
    exact Service.describes_of_saves (hr.reaches n _ _ hn)
  obtain ⟨hrecords, hstored⟩ :=
    h.records.answer ht.indexed (ht.sound.fits n _ hn).1 hv cue n (.register r)
  have hcalls (m : Nat) (a : Activity) (ha : (t.step (.answer n cue)).activities[m]? = some a) :
      a.call = .register r := by
    rw [activities_answer hn cue] at ha
    split at ha
    · cases ha
      rfl
    · exact h.calls m a ha
  rw [step_answer hn] at hcalls ⊢
  refine ⟨hcalls, hrecords, ?_, ?_⟩
  · rw [List.any_append, h.stored, List.any_cons, List.any_nil, Bool.or_false]
    exact hstored
  · intro earlier x later hlog
    rcases List.eq_nil_or_concat later with rfl | ⟨later, y, rfl⟩
    · -- the exchange is the new one
      obtain ⟨rfl, hx⟩ := List.append_inj' hlog rfl
      cases hx
      rw [h.stored]
      exact Reply.tells_answer h.records ht.indexed hv cue
    · rw [List.concat_eq_append, ← List.cons_append, ← List.append_assoc] at hlog
      exact h.told earlier x later (List.append_inj' hlog rfl).1

theorem delivered_after {moves : List Move} (hmoves : ∀ m ∈ moves, m.delivers r = true) :
    (after moves).Delivered r := by
  refine (steps_induction (P := fun t => t.Truthful ∧ t.Recorded ∧ t.Delivered r)
    ⟨truthful_start, recorded_start, delivered_start r⟩ ?_).2.2
  rintro t m hm ⟨ht, hr, h⟩
  refine ⟨ht.step m, hr.step m, ?_⟩
  rcases t.step_cases m with ⟨c, rfl⟩ | ⟨n, c, q, next, cue, rfl, hn⟩ | hstay
  · rw [Move.eq_of_delivers (hmoves _ hm)]
    exact h.call
  · obtain rfl : c = .register r := h.calls n _ hn
    exact h.answer ht hr hn cue
  · rw [hstay]
    exact h

end Traffic

end Payments
