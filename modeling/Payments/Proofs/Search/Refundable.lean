import Payments.Proofs.Payment.Completion
import Payments.Proofs.Payment.Snapshot
import Payments.Proofs.Search.Paging
import Payments.Proofs.Traffic.Alone

/-!
# Payments.Proofs.Search.Refundable -- three answers to whether a payment can be refunded

A payment tells by its status and by its ledger, which compares what was refunded with the amount. A
search for the refundable payments of a company asks every payment. A refund that is called for
computes what is left, possibly rounded, and compares that with zero and with itself.

The three agree (`Store.refundable_answers_agree`), because rounding neither makes nothing of a
remainder nor a remainder of nothing (`Ledger.Balanced.pos_refundable_iff`). That needs of a ledger
only that it is balanced, which holds of whatever was read as one, so the records may be any that
were restored from text (`Store.Restored`).
-/

namespace Payments

/-- What is not set asks for nothing. -/
theorem forall_mem_none {α : Type} {P : α → Prop} : ∀ a ∈ (none : Option α), P a :=
  nofun

/-! ## One payment -/

namespace Payment

variable {p q : Payment} {left : Decimal} {reason : String}

/-- A refund of all that is left begins just if the payment says that it can be refunded. -/
theorem startRefund_left_eq_ok (h : p.ledger.Balanced) (hleft : p.ledger.refundable = .ok left) :
    p.startRefund left reason = .ok q ↔ p.isRefundable = true ∧ q = p.begun reason := by
  rw [startRefund_eq_ok, isRefundable, Bool.and_eq_true, ← h.pos_refundable_iff hleft,
    Decimal.not_le_zero_iff]
  constructor
  · rintro ⟨hs, hpos, -, hq⟩
    exact ⟨⟨hs, hpos⟩, hq⟩
  · rintro ⟨⟨hs, hpos⟩, hq⟩
    exact ⟨hs, hpos, ⟨left, hleft, Int.lt_irrefl _⟩, hq⟩

/-- A refund of all that is left is refused if the payment says that it cannot be refunded. -/
theorem startRefund_left_of_not_refundable (h : p.ledger.Balanced)
    (hleft : p.ledger.refundable = .ok left) (hp : p.isRefundable = false) (reason : String) :
    ∃ e, p.startRefund left reason = refuse e := by
  unfold startRefund
  split
  · exact ⟨_, rfl⟩
  · next hs =>
    have hzero : left ≤ Decimal.zero := by
      rw [isRefundable, Bool.and_eq_false_iff] at hp
      rcases hp with hstatus | hledger
      · rw [hstatus] at hs
        exact absurd rfl hs
      · refine Int.not_lt.1 fun hpos => ?_
        rw [(h.pos_refundable_iff hleft).1 hpos] at hledger
        cases hledger
    rw [if_pos hzero]
    exact ⟨_, rfl⟩

end Payment

namespace Service

variable {s : Store} {i : PaymentId} {p : Payment}

/-- The payment of its own order begins its refund just as it says. -/
theorem beginRefund_own {left : Decimal} (hleft : p.ledger.refundable = .ok left)
    (paymentId reason : String) :
    beginRefund p paymentId p.orderId reason =
      (p.startRefund left reason).map fun begun => (begun, left) := by
  rw [beginRefund, if_neg (not_not.2 rfl), hleft]
  show (p.startRefund left reason >>= _) = _
  cases p.startRefund left reason <;> rfl

/-- The run of a refund has looked its payment up and then, before anything else, stored that the
refund begins: a payment that is being refunded, as which it is on record now. -/
def Claims (x : Solo (Outcome Payment)) (i : PaymentId) (p : Payment) (reason : String) : Prop :=
  ∃ now rest, x.dialogue =
    ⟨.store (.findById i), some p⟩ ::
      ⟨.store (.save (p.begun reason)), .ok ((p.begun reason).written now)⟩ :: rest

/-- The run of a refund has looked its payment up, and that is all: it was refused. -/
structure IsTurnedDown (x : Solo (Outcome Payment)) (s : Store) (i : PaymentId) (p : Payment) :
    Prop where
  result : ∃ e, x.result = Payments.refuse e
  store : x.store = s
  dialogue : x.dialogue = [⟨.store (.findById i), some p⟩]

/-- A refund of all that is left, for the payment's own order, is claimed if the payment says that
it can be refunded, and turned down otherwise. -/
theorem claims_or_turnedDown (h : p.ledger.Balanced) (hid : p.id = some i)
    (hfound : s.findById i = some p) (hversion : p.version + 1 < twoTo 64) (reason : String)
    (cues : Nat → Cue) :
    let x := (refund i.text p.orderId reason).run.alone cues s
    (p.isRefundable = true ∧ Claims x i p reason) ∨
      (p.isRefundable = false ∧ IsTurnedDown x s i p) := by
  intro x
  obtain ⟨left, hleft, -⟩ := h.exists_refundable
  have hlook : x = (((found i p.orderId reason (some p)).alone (fun k => cues (k + 1)) s).following
      ⟨.store (.findById i), some p⟩) := by
    show (refund i.text p.orderId reason).run.alone cues s = _
    rw [run_refund, Procedure.alone_ask]
    simp only [Cue.answer, StoreRequest.serve, hfound]
  cases hp : p.isRefundable with
  | true =>
    -- nothing has come between the look-up and the write, so the payment is as current as it was
    have hbegin : beginRefund p i.text p.orderId reason = .ok (p.begun reason, left) := by
      rw [beginRefund_own hleft, (Payment.startRefund_left_eq_ok h hleft).2 ⟨hp, rfl⟩]
      rfl
    have hid' : (p.begun reason).id = some i := hid
    have hsave := (Store.save_of_id ((cues 1).supply s) (cues 1).now hid').trans
      (Store.update_of_current _ hid' (Store.findById_eq_some.1 hfound).1 rfl hversion)
    simp only [found, hbegin, claiming, Procedure.alone_ask, Cue.answer, StoreRequest.serve,
      hsave] at hlook
    exact .inl ⟨rfl, _, _, congrArg Solo.dialogue hlook⟩
  | false =>
    obtain ⟨e, he⟩ := Payment.startRefund_left_of_not_refundable h hleft hp reason
    have hbegin : beginRefund p i.text p.orderId reason = Payments.refuse e := by
      rw [beginRefund_own hleft, he]
      rfl
    simp only [found, hbegin] at hlook
    exact .inr ⟨rfl, ⟨e, congrArg Solo.result hlook⟩, congrArg Solo.store hlook,
      congrArg Solo.dialogue hlook⟩

/-- A claimed refund is not turned down. -/
theorem Claims.not_turnedDown {x : Solo (Outcome Payment)} {reason : String}
    (h : Claims x i p reason) : ¬ IsTurnedDown x s i p := by
  rintro ⟨-, -, hdialogue⟩
  obtain ⟨now, rest, hclaimed⟩ := h
  rw [hclaimed] at hdialogue
  cases hdialogue

end Service

/-! ## A store of restored payments -/

namespace Store

variable {s : Store}

/-- The records were restored from text: each was read as a payment, stands under its own identity,
and has a version that can be counted up. -/
structure Restored (s : Store) : Prop where
  filed : s.Filed
  read : ∀ i p, s.record? i = some p → ∃ text, Payment.codec.parse text = .ok p
  countable : ∀ i p, s.record? i = some p → p.version + 1 < twoTo 64

/-- Whatever was read as a payment has a balanced ledger. -/
theorem Restored.balanced (h : s.Restored) {i : PaymentId} {p : Payment}
    (hp : s.record? i = some p) : p.ledger.Balanced := by
  obtain ⟨text, htext⟩ := h.read i p hp
  exact (Payment.Given.read htext).storable.ledger.toBalanced

/-- A selection is all that was found. -/
theorem select_eq (hcount : s.size ≤ maxCount) (c : Criteria) : s.select c = s.found c := by
  rw [select, search_eq]
  exact Page.items_unpaged (Nat.le_trans (s.length_found_le c) hcount)

/-- Payments of a company on either side, and nothing else, are asked for. -/
theorem isMetBy_ofCompany {company : String} {p : Payment} :
    (Criteria.ofCompany company).IsMetBy p ↔
      p.deletion = none ∧ (p.payer.companyId = company ∨ p.payee.companyId = company) := by
  constructor
  · intro h
    exact ⟨h.visible, h.company company rfl⟩
  · rintro ⟨hlive, hcompany⟩
    refine ⟨hlive, ?_, forall_mem_none, forall_mem_none, forall_mem_none, forall_mem_none,
      forall_mem_none, forall_mem_none⟩
    rintro _ ⟨⟩
    exact hcompany

/-- The payments that a search for refundable ones shows. -/
theorem mem_findRefundable (hcount : s.size ≤ maxCount) {company : String} {p : Payment} :
    p ∈ s.findRefundable company ↔
      (∃ i, s.record? i = some p) ∧ p.deletion = none ∧ p.payer.companyId = company ∧
        p.isRefundable = true := by
  rw [findRefundable, findByPayer, List.mem_filter, List.mem_filter, select_eq hcount, mem_found,
    isMetBy_ofCompany, beq_iff_eq]
  constructor
  · rintro ⟨⟨⟨hrecord, hlive, -⟩, hpayer⟩, hrefundable⟩
    exact ⟨hrecord, hlive, hpayer, hrefundable⟩
  · rintro ⟨hrecord, hlive, hpayer, hrefundable⟩
    exact ⟨⟨⟨hrecord, hlive, .inl hpayer⟩, hpayer⟩, hrefundable⟩

theorem Filed.pairwise_findRefundable (h : s.Filed) (hcount : s.size ≤ maxCount)
    (company : String) : (s.findRefundable company).Pairwise Payment.Before := by
  have hall : (s.select (.ofCompany company)).Pairwise Payment.Before := by
    rw [select_eq hcount]
    exact h.pairwise_found _
  exact (hall.filter _).filter _

/-- Whatever payments a store was restored from: what is left of each can be computed; a search for
the refundable payments of a company shows exactly those that have not been deleted, that the
company pays and that say that they can be refunded, each once and the newest first; and a payment
that has not been deleted says so just if a refund of all that is left begins, and just if a call to
refund it for its own order, running alone, passes every check and stores that the refund begins
before anything else. Otherwise that call is refused after the look-up and changes nothing. -/
theorem refundable_answers_agree (h : s.Restored) (hcount : s.size ≤ maxCount) :
    (∀ i p, s.record? i = some p → ∃ left, p.ledger.refundable = .ok left) ∧
      (∀ company,
        (∀ p, p ∈ s.findRefundable company ↔
          (∃ i, s.record? i = some p) ∧ p.deletion = none ∧ p.payer.companyId = company ∧
            p.isRefundable = true) ∧
        (s.findRefundable company).Nodup ∧ (s.findRefundable company).Pairwise Payment.Before) ∧
      ∀ i p, s.findById i = some p → ∀ reason,
        (∀ left, p.ledger.refundable = .ok left →
          (p.isRefundable = true ↔ ∃ q, p.startRefund left reason = .ok q)) ∧
        ∀ cues,
          let x := (Service.refund i.text p.orderId reason).run.alone cues s
          (p.isRefundable = true ↔ Service.Claims x i p reason) ∧
            (p.isRefundable = false ↔ Service.IsTurnedDown x s i p) := by
  refine ⟨?left, ?search, ?calls⟩
  case left =>
    intro i p hp
    obtain ⟨left, hleft, -⟩ := (h.balanced hp).exists_refundable
    exact ⟨left, hleft⟩
  case search =>
    intro company
    have horder := h.filed.pairwise_findRefundable hcount company
    exact ⟨fun p => mem_findRefundable hcount, Payment.nodup_of_pairwise_before horder, horder⟩
  case calls =>
    intro i p hfound reason
    have hp := (findById_eq_some.1 hfound).1
    have hbalanced := h.balanced hp
    refine ⟨?_, ?_⟩
    · intro left hleft
      simp [Payment.startRefund_left_eq_ok hbalanced hleft]
    · intro cues x
      have hcall := Service.claims_or_turnedDown hbalanced (h.filed i p hp) hfound
        (h.countable i p hp) reason cues
      rcases hcall with ⟨hrefundable, hclaims⟩ | ⟨hrefundable, hturned⟩
      · rw [hrefundable]
        exact ⟨iff_of_true rfl hclaims, iff_of_false nofun hclaims.not_turnedDown⟩
      · rw [hrefundable]
        exact ⟨iff_of_false nofun fun hclaims => hclaims.not_turnedDown hturned,
          iff_of_true rfl hturned⟩

/-- A tenth of one has been given back of the largest whole amount. What is left is rounded to that
amount; it counts as left all the same, and its refund begins. -/
theorem refundable_answers_agree_of_largest :
    let largest : Decimal := ⟨false, 79228162514264337593543950335, 0, by decide, by decide⟩
    let tenth : Decimal := ⟨false, 1, 1, by decide, by decide⟩
    let i : PaymentId := ⟨"x", by decide⟩
    let p : Payment :=
      { Payment.Sample.created largest with
        id := some i
        status := .partiallyRefunded
        ledger := ⟨largest, tenth, Ledger.defaultCurrency⟩ }
    let s := (∅ : Store).file i p
    s.Restored ∧ s.size ≤ maxCount ∧ p.ledger.refundable = .ok largest ∧
      p ∈ s.findRefundable "company-1" ∧ (∃ q, p.startRefund largest "lost" = .ok q) ∧
      ∀ cues, Service.Claims ((Service.refund i.text p.orderId "lost").run.alone cues s) i p
        "lost" := by
  intro largest tenth i p s
  have hnoon : Payment.Sample.noon.Obtainable := .text "2024-05-01T12:00:00Z" (by decide +kernel)
  have hstorable : p.Storable :=
    { ledger := ⟨⟨by decide, by decide⟩, by decide, .inr (by decide), by decide, by decide⟩
      reference := ⟨by rintro _ ⟨⟩; exact hnoon, forall_mem_none⟩
      createdAt := hnoon
      verifiedAt := forall_mem_none
      refundedAt := forall_mem_none
      updatedAt := forall_mem_none
      deletion := forall_mem_none
      version := by decide }
  have honly : ∀ j q, s.record? j = some q → j = i ∧ q = p := by
    intro j q hq
    rw [record?_file] at hq
    split at hq
    · next hj => exact ⟨hj, (Option.some.inj hq).symm⟩
    · cases hq
  have hrestored : s.Restored :=
    { filed := by
        intro j q hq
        obtain ⟨rfl, rfl⟩ := honly j q hq
        rfl
      read := by
        intro j q hq
        obtain ⟨-, rfl⟩ := honly j q hq
        exact ⟨_, hstorable.codec_gives.parse⟩
      countable := by
        intro j q hq
        obtain ⟨-, rfl⟩ := honly j q hq
        decide }
  have hcount : s.size ≤ maxCount := by decide
  have hrecord : s.record? i = some p := record?_file_self _ i p
  have hleft : p.ledger.refundable = .ok largest := by decide +kernel
  have hrefundable : p.isRefundable = true := by decide +kernel
  obtain ⟨-, hsearch, hcalls⟩ := refundable_answers_agree hrestored hcount
  obtain ⟨hbegins, hruns⟩ := hcalls i p (findById_eq_some.2 ⟨hrecord, rfl⟩) "lost"
  exact ⟨hrestored, hcount, hleft,
    ((hsearch "company-1").1 p).2 ⟨⟨i, hrecord⟩, rfl, rfl, hrefundable⟩,
    (hbegins largest hleft).1 hrefundable, fun cues => (hruns cues).1.1 hrefundable⟩

end Store

end Payments
