import Payments.Proofs.Service.Confirmation
import Payments.Proofs.Traffic.Deliveries
import Payments.Proofs.Traffic.Registration

/-!
# Payments.Proofs.Traffic.Duplicates -- deliveries that are refused as duplicates

If one registration is delivered several times at once, then a delivery that found nothing at first
may be told afterwards that a key is taken, because another one has stored the payment in between.
Only the insertion looks for that payment then; the two checks before it do not, they refuse.

So one thing decides whether a delivery ends well. It is *overtaken* if a payment is stored after
its first request and before one of its checks. A delivery that is overtaken is refused as a
duplicate; every other one returns the one stored payment
(`Traffic.registered_unless_overtaken`).
-/

namespace Payments

/-! ## Deliveries that are overtaken -/

/-- Whether an element with the first property is followed by one with the second. -/
def followed {α : Type} (P Q : α → Bool) : List α → Bool
  | [] => false
  | x :: xs => (P x && xs.any Q) || followed P Q xs

theorem followed_iff {α : Type} {P Q : α → Bool} {xs : List α} :
    followed P Q xs = true ↔ ∃ l x l', xs = l ++ x :: l' ∧ l.any P = true ∧ Q x = true := by
  induction xs with
  | nil => simp [followed]
  | cons y ys ih =>
    rw [followed, Bool.or_eq_true, Bool.and_eq_true, List.any_eq_true, ih]
    constructor
    · rintro (⟨hy, x, hx, hQ⟩ | ⟨l, x, l', rfl, hl, hQ⟩)
      · obtain ⟨l, l', rfl⟩ := List.append_of_mem hx
        exact ⟨y :: l, x, l', rfl, by simp [hy], hQ⟩
      · exact ⟨y :: l, x, l', rfl, by simp [hl], hQ⟩
    · rintro ⟨l, x, l', he, hl, hQ⟩
      cases l with
      | nil => cases hl
      | cons z l =>
        obtain ⟨rfl, rfl⟩ := List.cons.inj he
        rcases Bool.or_eq_true_iff.1 hl with hz | hl
        · exact Or.inl ⟨hz, x, by simp, hQ⟩
        · exact Or.inr ⟨l, x, l', rfl, hl, hQ⟩

/-- Whether the request is to know if a key is taken. -/
def Request.checksKey : Request → Bool
  | .store (.holdsGatewayPayment _) | .store (.holdsOrder _) => true
  | _ => false

/-- Who inserts a payment has made sure of the keys before. -/
theorem Service.Insertion.checksKey {v : Payment} {d : List Reply}
    {rest : Procedure (Outcome Payment)} (h : Service.Insertion v d rest) {y : Reply}
    (hy : y ∈ d) : y.request.checksKey = false := by
  cases h with
  | saving => cases hy
  | stored | fetching | fetched | gone | refused =>
    simp only [List.mem_cons, List.not_mem_nil, or_false] at hy
    rcases hy with rfl | rfl <;> rfl

namespace Traffic

variable {t : Traffic} {r : Registration} {n : Nat}

/-- Whether a payment was stored after the first request of the call and before one of its checks
whether a key is taken. -/
def overtaken (t : Traffic) (n : Nat) : Bool :=
  followed Exchange.stores (fun x => x.caller == n && x.request.checksKey)
    (t.log.dropWhile fun x => x.caller != n)

/-- A delivery that finds no key taken is not overtaken. -/
theorem Delivered.not_overtaken (h : t.Delivered r)
    (hfree : ∀ d ∈ t.dialogue n, d.request.checksKey = true →
      d = ⟨.store (.holdsGatewayPayment r.gatewayPaymentId), false⟩ ∨
        d = ⟨.store (.holdsOrder r.orderId), false⟩) :
    t.overtaken n = false := by
  apply Bool.eq_false_iff.2
  intro hovertaken
  obtain ⟨l, x, later, hdrop, hl, hx⟩ := followed_iff.1 hovertaken
  obtain ⟨hcaller, hchecks⟩ := Bool.and_eq_true_iff.1 hx
  have hlog : t.log = (t.log.takeWhile fun x => x.caller != n) ++ l ++ x :: later := by
    rw [List.append_assoc, ← hdrop, List.takeWhile_append_dropWhile]
  have htold := h.told _ x later hlog
  rw [List.any_append, hl, Bool.or_true] at htold
  -- the payment was stored by the time of the check, which would have said so
  have hmem : x.reply ∈ t.dialogue n :=
    mem_dialogue.2 ⟨x, hlog ▸ List.mem_append_right _ List.mem_cons_self, beq_iff_eq.1 hcaller, rfl⟩
  rcases hfree _ hmem hchecks with hg | ho
  · cases htold.gatewayPayment _ hg
  · cases htold.order _ ho

/-- A delivery that finds nothing at first, and a key taken afterwards, is overtaken. -/
theorem Delivered.overtaken (h : t.Delivered r) {d : List Reply} {y : Reply}
    (hd : t.dialogue n =
      ⟨.store (.findByGatewayPayment r.gatewayPaymentId), none⟩ :: (d ++ [y]))
    (hy : y = ⟨.store (.holdsGatewayPayment r.gatewayPaymentId), true⟩ ∨
      y = ⟨.store (.holdsOrder r.orderId), true⟩) :
    t.overtaken n = true := by
  obtain ⟨l, x, rest, hlog, hxn, hx, hl, hrest⟩ := Exchange.split_of_dialogue [] _ hd
  obtain ⟨l', x', later, rfl, hxn', hx', -, -⟩ := Exchange.split_of_dialogue d [] hrest
  have hfirst := h.told l x _ hlog
  have hcheck := h.told (l ++ x :: l') x' later (by rw [hlog, List.append_assoc]; rfl)
  -- nothing was stored before the first request, but something was before the check
  have hnone : l.any Exchange.stores = false := (hfirst.found none hx).symm
  have hstored : (l ++ x :: l').any Exchange.stores = true := by
    rcases hy with rfl | rfl
    · exact (hcheck.gatewayPayment true hx').symm
    · exact (hcheck.order true hx').symm
  have hbetween : (x :: l').any Exchange.stores = true := by
    rwa [List.any_append, hnone, Bool.false_or] at hstored
  have hdrop : (t.log.dropWhile fun x => x.caller != n) = x :: l' ++ x' :: later := by
    rw [hlog, List.dropWhile_append_of_pos, List.dropWhile_cons_of_neg]
    · rfl
    · simp [hxn]
    · exact fun y hy => bne_iff_ne.2 (Exchange.not_mem_of_dialogue_eq_nil hl y hy)
  refine followed_iff.2 ⟨x :: l', x', later, hdrop, hbetween, ?_⟩
  have hchecks : x'.request.checksKey = true := by
    have hrequest : x'.request = y.request := congrArg Reply.request hx'
    rw [hrequest]
    rcases hy with rfl | rfl <;> rfl
  rw [hxn', hchecks, beq_self_eq_true]
  rfl

/-- A delivery that has come to insert its payment ends well: if it fails to, it finds the one that
was stored. -/
theorem Delivered.ok_of_insertion (h : t.Delivered r) {d d' : List Reply} {v : Payment}
    {o : Outcome Payment} (hd : t.dialogue n = d ++ d') (hi : Service.Insertion v d' (.done o)) :
    ∃ p, o = .ok p := by
  cases hi with
  | stored p | fetched id p => exact ⟨p, rfl⟩
  | gone id =>
    obtain ⟨l, x, rest, hlog, -, hx, -, hrest⟩ := Exchange.split_of_dialogue _ _ hd
    obtain ⟨l', x', later, rfl, -, hx', -, -⟩ := Exchange.split_of_dialogue [] _ hrest
    have hsave := h.told l x _ hlog
    have hfind := h.told (l ++ x :: l') x' later (by rw [hlog, List.append_assoc]; rfl)
    -- what was refused because something was stored is looked up when it still is
    rw [hx] at hsave
    obtain ⟨hstored, hid⟩ := hsave.saved_error
    cases hid
    rw [List.any_append, hstored, Bool.true_or] at hfind
    cases hfind.found none hx'
  | refused hf =>
    obtain ⟨l, x, rest, hlog, -, hx, -, -⟩ := Exchange.split_of_dialogue _ _ hd
    have hsave := h.told l x _ hlog
    rw [hx] at hsave
    exact absurd hsave.saved_error.2 (hf _)

theorem checksKey_of_consulted {account : Gateway.PaymentAnswer} {times : List Instant} {y : Reply}
    (hy : y ∈ Service.consulted r account times) : y.request.checksKey = false := by
  rcases List.mem_cons.1 hy with rfl | hy
  · rfl
  · obtain ⟨s, -, rfl⟩ := List.mem_map.1 hy
    rfl

/-- Whether the gateway has confirmed the registration to all calls that asked it. -/
def confirms (t : Traffic) (r : Registration) : Bool :=
  (List.range t.activities.length).all fun n => Service.confirmed r (t.dialogue n)

/-- The call is a delivery of the registration and was refused. -/
def Refused (t : Traffic) (n : Nat) (r : Registration) (e : PaymentError) : Prop :=
  t.activities[n]? = some ⟨.register r, .done (refuse e)⟩

/-- A delivery that is over was refused, if it was overtaken, and has ended well otherwise. -/
theorem Delivered.outcome (h : t.Delivered r) (hr : t.Recorded) (hcomplete : r.IsComplete)
    (hconfirmed : Service.confirmed r (t.dialogue n) = true) {o : Outcome Payment}
    (hn : t.activities[n]? = some ⟨.register r, .done o⟩) :
    (t.overtaken n = false ∧ ∃ p, o = .ok p) ∨
      t.overtaken n = true ∧ (o = refuse (.duplicateGatewayPayment r.gatewayPaymentId) ∨
        o = refuse (.duplicateOrder r.orderId)) := by
  have hreaches := hr.reaches n _ _ hn
  generalize hd : t.dialogue n = d at hreaches hconfirmed
  cases Service.admission_of_reaches hreaches with
  | found p =>
    refine Or.inl ⟨h.not_overtaken ?_, p, rfl⟩
    rw [hd]
    intro y hy hchecks
    cases List.mem_singleton.1 hy
    cases hchecks
  | taken => exact Or.inr ⟨h.overtaken (d := []) hd (Or.inl rfl), Or.inl rfl⟩
  | orderTaken => exact Or.inr ⟨h.overtaken (d := [_]) hd (Or.inr rfl), Or.inr rfl⟩
  | admitted hs =>
    rcases hs.of_confirmed hcomplete hconfirmed with
      ⟨q, next, hask⟩ | ⟨account, times, v, d', rfl, hi⟩
    · cases hask
    · rw [← List.append_assoc] at hd
      refine Or.inl ⟨h.not_overtaken ?_, h.ok_of_insertion hd hi⟩
      rw [hd]
      intro y hy hchecks
      rcases List.mem_append.1 hy with hy | hy
      · rcases List.mem_append.1 hy with hy | hy
        · simp only [List.mem_cons, List.not_mem_nil, or_false] at hy
          rcases hy with rfl | rfl | rfl
          · cases hchecks
          · exact Or.inl rfl
          · exact Or.inr rfl
        · rw [checksKey_of_consulted hy] at hchecks
          cases hchecks
      · rw [hi.checksKey hy] at hchecks
        cases hchecks

/-- If all calls are deliveries of one complete registration, and the gateway confirms it to all
that ask, then every delivery has returned when it was answered nine times. One that is not
overtaken returns the one stored payment. One that is overtaken is refused, as a duplicate of that
payment. -/
theorem registered_unless_overtaken {r : Registration} (hcomplete : r.IsComplete)
    (moves : List Move) (hmoves : ∀ m ∈ moves, m.delivers r = true)
    (hconfirms : (after moves).confirms r = true) :
    let t := after moves
    ∀ (n : Nat) (a : Activity), t.activities[n]? = some a →
      (¬ a.IsOver → (t.dialogue n).length < 9) ∧
      (a.IsOver → t.overtaken n = false →
        ∃ p q, t.Registered n r p ∧ t.store.records.values = [q] ∧ p.id = q.id) ∧
      (a.IsOver → t.overtaken n = true →
        t.Refused n r (.duplicateGatewayPayment r.gatewayPaymentId) ∨
          t.Refused n r (.duplicateOrder r.orderId)) := by
  intro t n a hn
  have h : t.Delivered r := delivered_after hmoves
  have hr : t.Recorded := recorded_after moves
  have ht : t.Truthful := truthful_after moves
  have hconfirmed : Service.confirmed r (t.dialogue n) = true :=
    List.all_eq_true.1 hconfirms n (List.mem_range.2 (List.getElem?_eq_some_iff.1 hn).1)
  obtain ⟨c, rest⟩ := a
  obtain rfl : c = .register r := h.calls n _ hn
  cases rest with
  | ask q next =>
    have hwaits : ¬ Activity.IsOver ⟨.register r, .ask q next⟩ := fun ⟨_, ho⟩ => nomatch ho
    exact ⟨fun _ => Service.length_lt_of_asks (hr.reaches n _ _ hn), fun ho => absurd ho hwaits,
      fun ho => absurd ho hwaits⟩
  | done o =>
    refine ⟨fun hno => absurd ⟨o, rfl⟩ hno, ?_, ?_⟩
    · intro _ hnot
      rcases h.outcome hr hcomplete hconfirmed hn with ⟨-, p, rfl⟩ | ⟨hyes, -⟩
      · obtain ⟨-, i, q, hi, hq, -⟩ := ht.onRecord hr hn
        exact ⟨p, q, hn, h.records.values ht.indexed hq, hi.trans (ht.indexed.filed i q hq).symm⟩
      · cases hnot.symm.trans hyes
    · intro _ hyes
      rcases h.outcome hr hcomplete hconfirmed hn with ⟨hnot, -⟩ | ⟨-, rfl | rfl⟩
      · cases hnot.symm.trans hyes
      · exact Or.inl hn
      · exact Or.inr hn

/-- A payment is delivered twice. The second delivery goes through from beginning to end between the
first two requests of the first one. -/
def overtakenDelivery : List Move :=
  .call (.register Sample.registration) :: .answer 0 Sample.cue ::
    .call (.register Sample.registration) :: List.replicate 8 (.answer 1 Sample.cue) ++
    [.answer 0 Sample.cue]

theorem registered_unless_overtaken_sample :
    let t := after overtakenDelivery
    (∃ p q, t.Registered 1 Sample.registration p ∧ t.store.records.values = [q] ∧ p.id = q.id) ∧
      (t.Refused 0 Sample.registration (.duplicateGatewayPayment "pg-1") ∨
        t.Refused 0 Sample.registration (.duplicateOrder "order-1")) := by
  intro t
  have h := registered_unless_overtaken (r := Sample.registration) ⟨by decide, by decide⟩
    overtakenDelivery (by decide) (by decide)
  exact ⟨(h 1 _ rfl).2.1 (by decide) (by decide), (h 0 _ rfl).2.2 (by decide) (by decide)⟩

/-- Both deliveries are of one registration, which is complete and which the gateway confirms. The
first one is refused all the same. -/
theorem overtaken_delivery_is_refused :
    let t := after overtakenDelivery
    Sample.registration.IsComplete ∧
      (∀ m ∈ overtakenDelivery, m.delivers Sample.registration = true) ∧
      t.confirms Sample.registration = true ∧
      t.Refused 0 Sample.registration (.duplicateGatewayPayment "pg-1") :=
  ⟨⟨by decide, by decide⟩, by decide, by decide, rfl⟩

end Traffic

end Payments
