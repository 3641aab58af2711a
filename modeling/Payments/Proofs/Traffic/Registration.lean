import Payments.Proofs.Service.Registering
import Payments.Proofs.Traffic.Keys

/-!
# Payments.Proofs.Traffic.Registration -- registrations agree

A registration that ends well has its payment from the store, in one of three ways: it found it at
once, it stored it, or it found it after another registration had been faster
(`Service.sources_of_ok`). What the store says of stored payments stays true, and of two payments on
record with one gateway payment the store has only one. So all registrations of a gateway payment
that end well agree, whatever goes on between their requests.

And a registration goes to the gateway only if it was told that its keys are free. Nobody is told so
of a key that was on record before.
-/

namespace Payments

namespace Traffic

variable {t : Traffic} {n : Nat} {r : Registration}

/-- The call is a registration and has returned the payment. -/
def Registered (t : Traffic) (n : Nat) (r : Registration) (p : Payment) : Prop :=
  t.activities[n]? = some ⟨.register r, .done (.ok p)⟩

/-- What a registration gives back is its gateway payment, and it is on record. -/
theorem Truthful.onRecord (h : t.Truthful) (hr : t.Recorded) {p : Payment}
    (hn : t.Registered n r p) :
    p.reference.paymentId = r.gatewayPaymentId ∧ t.store.HasOnRecord p := by
  have hvouched (d : Reply) (hd : d ∈ t.dialogue n) : d.Vouched t.store := by
    obtain ⟨x, hx, -, rfl⟩ := mem_dialogue.1 hd
    exact h.vouched x hx
  rcases Service.sources_of_ok (hr.reaches n _ _ hn) with hfound | ⟨v, hv, hstored | ⟨g, hlost, hw⟩⟩
  · obtain ⟨hp, hkey⟩ := (hvouched _ hfound).shown _ _ rfl
    exact ⟨hkey, hp⟩
  · obtain ⟨hp, hkeys⟩ := (hvouched _ hstored).stored _ _ rfl
    exact ⟨hkeys.gatewayPayment.trans hv.gatewayPayment, hp⟩
  · -- the payment that was faster was looked up by the key for which the own one was refused
    have hg := (hvouched _ hlost).lost _ _ rfl
    obtain ⟨hp, hkey⟩ := (hvouched _ hw).shown _ _ rfl
    exact ⟨hkey.trans (hg.trans hv.gatewayPayment), hp⟩

/-- The store has a record of the gateway payment or of the order of the registration. -/
def KnowsKeyOf (t : Traffic) (r : Registration) : Prop :=
  ∃ i p, t.store.record? i = some p ∧
    (p.reference.paymentId = r.gatewayPaymentId ∨ p.orderId = r.orderId)

/-- A registration that starts when one of its keys is on record never goes to the gateway. -/
theorem Truthful.not_forGateway (h : t.Truthful) (moves : List Move)
    (hr : (moves.foldl Traffic.step t).Recorded) (hkey : t.KnowsKeyOf r)
    (hnew : ∀ x ∈ t.log, x.caller ≠ n) {x : Exchange} (hx : x ∈ (moves.foldl Traffic.step t).log)
    (hcaller : x.caller = n) (hcall : x.call = .register r) :
    x.request.isForGateway = false := by
  apply Bool.eq_false_iff.2
  intro hgateway
  obtain ⟨caller, call, request, answer⟩ := x
  obtain rfl : caller = n := hcaller
  obtain rfl : call = .register r := hcall
  -- the call was told that both keys are free
  obtain ⟨rest, hn⟩ := hr.callers _ hx
  obtain ⟨hfreeG, hfreeO⟩ := Service.free_of_forGateway (hr.reaches _ _ _ hn)
    (mem_dialogue.2 ⟨_, hx, rfl, rfl⟩) hgateway
  have hheeds (d : Reply) (hd : d ∈ (moves.foldl Traffic.step t).dialogue caller) :
      d.Heeds t.store := by
    obtain ⟨y, hy, hyn, rfl⟩ := mem_dialogue.1 hd
    rcases h.heeds moves y hy with hold | hheeds
    · exact absurd hyn (hnew y hold)
    · exact hheeds
  obtain ⟨i, p, hp, hg | ho⟩ := hkey
  · cases (hheeds _ hfreeG).gatewayPayment _ _ rfl
      ((h.indexed.gatewayPayment.holds_iff _).2 ⟨i, p, hp, hg⟩)
  · cases (hheeds _ hfreeO).order _ _ rfl ((h.indexed.order.holds_iff _).2 ⟨i, p, hp, ho⟩)

/-- Whichever calls overlap, and whatever the gateway says:

* what a registration returns has the gateway payment that was to be registered, and is on record
  from then on, under its identity and with its keys;
* two registrations of one gateway payment that end well return the same identity;
* and a registration that has not yet asked anything when a payment with its gateway payment, or of
  its order, is on record never goes to the gateway. -/
theorem registrations_agree (earlier later : List Move) :
    let t := after earlier
    let u := after (earlier ++ later)
    (∀ n r p, t.Registered n r p →
      p.reference.paymentId = r.gatewayPaymentId ∧ u.store.HasOnRecord p) ∧
    (∀ m n r r' p q, t.Registered m r p → u.Registered n r' q →
      r.gatewayPaymentId = r'.gatewayPaymentId → p.id = q.id) ∧
    ∀ n r, t.KnowsKeyOf r → (∀ x ∈ t.log, x.caller ≠ n) →
      ∀ x ∈ u.log, x.caller = n → x.call = .register r → x.request.isForGateway = false := by
  intro t u
  have ht : t.Truthful := truthful_after earlier
  have hu : u.Truthful := truthful_after (earlier ++ later)
  have hrecorded : u.Recorded := recorded_after (earlier ++ later)
  have hsteps : u = later.foldl Traffic.step t := List.foldl_append
  have hkeeps : t.store.KeepsKeys u.store := hsteps ▸ ht.sound.keepsKeys later
  refine ⟨?_, ?_, ?_⟩
  · intro n r p hn
    obtain ⟨hkey, hp⟩ := ht.onRecord (recorded_after earlier) hn
    exact ⟨hkey, hp.mono hkeeps⟩
  · intro m n r r' p q hm hn hrr'
    obtain ⟨hpkey, hp⟩ := ht.onRecord (recorded_after earlier) hm
    obtain ⟨hqkey, hq⟩ := hu.onRecord hrecorded hn
    exact hu.indexed.id_eq (hp.mono hkeeps) hq (hpkey.trans (hrr'.trans hqkey.symm))
  · intro n r hkey hnew x hx hcaller hcall
    rw [hsteps] at hx hrecorded
    exact ht.not_forGateway later hrecorded hkey hnew hx hcaller hcall

end Traffic

end Payments
