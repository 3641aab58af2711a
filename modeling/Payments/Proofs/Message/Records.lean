import Payments.Proofs.Message.Values

/-!
# Payments.Proofs.Message.Records -- what the messages are read as

A message is read field by field as what its fields are read as. Only amounts and times may be read
as something else than was written, so what a message is read as is a *revision* of it: the same
message with its amounts and times changed by given functions. `codec_gives` says so for each kind
of message. If the message was itself read from a text, its times are read as they were written, and
only its amounts are left to revise (`revise_of_read`); if none of these is changed, nothing is
(`revise_of_amounts`).
-/

namespace Payments

open Json (Codec Fields)

/-! ## Revisions -/

/-- A change of the amounts and times in a message. -/
structure Revision where
  amount : Decimal → Decimal
  instant : Instant → Instant
  localTime : LocalTime → LocalTime

namespace Revision

/-- The change from amounts and times to what their texts are read as. -/
def reread : Revision :=
  ⟨Decimal.reread, Instant.reread, LocalTime.reread⟩

/-- A change of amounts only. -/
def ofAmounts (f : Decimal → Decimal) : Revision :=
  ⟨f, id, id⟩

end Revision

/-! ## Commands -/

namespace Registration

/-- The registration with its amounts and times changed. -/
def revise (v : Revision) (r : Registration) : Registration :=
  { r with expectedAmount := v.amount r.expectedAmount }

/-- The amounts of the registration. -/
def amounts (r : Registration) : List Decimal :=
  [r.expectedAmount]

@[simp] theorem amounts_revise (v : Revision) (r : Registration) :
    (r.revise v).amounts = r.amounts.map v.amount := rfl

theorem codec_gives (r : Registration) : codec.Gives r (r.revise .reread) :=
  Codec.gives_record (by decide) (by simp [Fields.Gives, revise, Revision.reread]) rfl

/-- A registration has no times. -/
theorem revise_reread (r : Registration) :
    r.revise .reread = r.revise (.ofAmounts Decimal.reread) := rfl

theorem revise_of_amounts {f : Decimal → Decimal} {r : Registration}
    (h : ∀ d ∈ r.amounts, f d = d) : r.revise (.ofAmounts f) = r := by
  have := h r.expectedAmount (by simp [amounts])
  simp [revise, Revision.ofAmounts, this]

end Registration

namespace RefundRequest

/-- The request with its amounts and times changed. It has no amounts. -/
def revise (v : Revision) (r : RefundRequest) : RefundRequest :=
  { r with requestedAt := r.requestedAt.map v.localTime }

theorem codec_gives (r : RefundRequest) : codec.Gives r (r.revise .reread) :=
  Codec.gives_record (by decide) (by simp [Fields.Gives, revise, Revision.reread]) rfl

theorem revise_ofAmounts (f : Decimal → Decimal) (r : RefundRequest) :
    r.revise (.ofAmounts f) = r := by
  simp [revise, Revision.ofAmounts]

theorem revise_of_read {d : Json.Document} {r : RefundRequest} (h : codec.read d = .ok r) :
    r.revise .reread = r.revise (.ofAmounts Decimal.reread) := by
  obtain ⟨⟨_, _, _, requestedAt, _⟩, ⟨-, -, -, htime, -⟩, hbuild⟩ := Codec.yields_of_record h
  cases hbuild
  have hmap : requestedAt.map LocalTime.reread = requestedAt := by
    apply Option.map_eq_self_of_mem
    intro t ht
    obtain ⟨d', hd'⟩ := Json.Field.read_of_yields rfl rfl htime ht
    exact LocalTime.reread_of_read hd'
  simp [revise, Revision.reread, Revision.ofAmounts, hmap]

end RefundRequest

/-! ## Announcements -/

namespace RefundDone

/-- The announcement with its amounts and times changed. -/
def revise (v : Revision) (e : RefundDone) : RefundDone :=
  { e with
    refundAmount := v.amount e.refundAmount
    totalRefundedAmount := v.amount e.totalRefundedAmount
    refundedAt := v.instant e.refundedAt }

/-- The amounts of the announcement. -/
def amounts (e : RefundDone) : List Decimal :=
  [e.refundAmount, e.totalRefundedAmount]

@[simp] theorem amounts_revise (v : Revision) (e : RefundDone) :
    (e.revise v).amounts = e.amounts.map v.amount := rfl

theorem codec_gives (e : RefundDone) : codec.Gives e (e.revise .reread) :=
  Codec.gives_record (by decide) (by simp [Fields.Gives, revise, Revision.reread]) rfl

/-- An announcement whose time a clock or a text gave is read with its time. -/
theorem revise_of_obtainable {e : RefundDone} (h : e.refundedAt.Obtainable) :
    e.revise .reread = e.revise (.ofAmounts Decimal.reread) := by
  simp [revise, Revision.reread, Revision.ofAmounts, h.reread]

theorem revise_of_read {d : Json.Document} {e : RefundDone} (h : codec.read d = .ok e) :
    e.revise .reread = e.revise (.ofAmounts Decimal.reread) := by
  obtain ⟨⟨_, _, _, _, _, _, _, _, _⟩, ⟨-, -, -, -, -, -, -, htime, -⟩, hbuild⟩ :=
    Codec.yields_of_record h
  cases hbuild
  obtain ⟨d', hd'⟩ := Json.Field.yields_required.1 htime
  exact revise_of_obtainable (Instant.obtainable_of_read hd')

theorem revise_of_amounts {f : Decimal → Decimal} {e : RefundDone}
    (h : ∀ d ∈ e.amounts, f d = d) : e.revise (.ofAmounts f) = e := by
  have hamount := h e.refundAmount (by simp [amounts])
  have htotal := h e.totalRefundedAmount (by simp [amounts])
  simp [revise, Revision.ofAmounts, hamount, htotal]

end RefundDone

namespace RefundFailed

/-- The announcement with its amounts and times changed. -/
def revise (v : Revision) (e : RefundFailed) : RefundFailed :=
  { e with
    requestedAmount := v.amount e.requestedAmount
    failedAt := v.instant e.failedAt }

/-- The amounts of the announcement. -/
def amounts (e : RefundFailed) : List Decimal :=
  [e.requestedAmount]

@[simp] theorem amounts_revise (v : Revision) (e : RefundFailed) :
    (e.revise v).amounts = e.amounts.map v.amount := rfl

theorem codec_gives (e : RefundFailed) : codec.Gives e (e.revise .reread) :=
  Codec.gives_record (by decide) (by simp [Fields.Gives, revise, Revision.reread]) rfl

/-- An announcement whose time a clock or a text gave is read with its time. -/
theorem revise_of_obtainable {e : RefundFailed} (h : e.failedAt.Obtainable) :
    e.revise .reread = e.revise (.ofAmounts Decimal.reread) := by
  simp [revise, Revision.reread, Revision.ofAmounts, h.reread]

theorem revise_of_read {d : Json.Document} {e : RefundFailed} (h : codec.read d = .ok e) :
    e.revise .reread = e.revise (.ofAmounts Decimal.reread) := by
  obtain ⟨⟨_, _, _, _, _, _⟩, ⟨-, -, -, -, htime, -⟩, hbuild⟩ := Codec.yields_of_record h
  cases hbuild
  obtain ⟨d', hd'⟩ := Json.Field.yields_required.1 htime
  exact revise_of_obtainable (Instant.obtainable_of_read hd')

theorem revise_of_amounts {f : Decimal → Decimal} {e : RefundFailed}
    (h : ∀ d ∈ e.amounts, f d = d) : e.revise (.ofAmounts f) = e := by
  have := h e.requestedAmount (by simp [amounts])
  simp [revise, Revision.ofAmounts, this]

end RefundFailed

/-! ## What is said to the gateway and what it answers -/

namespace Gateway

theorem FailureDetail.codec_gives (f : FailureDetail) : FailureDetail.codec.Gives f f :=
  Codec.gives_record (by decide) (by simp [Fields.Gives]) rfl

@[simp] theorem FailureDetail.optional_codec_gives_iff {o o' : Option FailureDetail} :
    FailureDetail.codec.optional.Gives o o' ↔ o' = o :=
  (Codec.Gives.optional_self Codec.write_record_ne_null fun f _ => f.codec_gives).iff

namespace PaymentAnswer

/-- The account with its amounts and times changed. -/
def revise (v : Revision) (a : PaymentAnswer) : PaymentAnswer :=
  { a with
    totalAmount := v.amount a.totalAmount
    balanceAmount := a.balanceAmount.map v.amount
    suppliedAmount := a.suppliedAmount.map v.amount
    vat := a.vat.map v.amount
    approvedAt := a.approvedAt.map v.instant
    requestedAt := a.requestedAt.map v.instant }

/-- The amounts of the account. -/
def amounts (a : PaymentAnswer) : List Decimal :=
  a.totalAmount :: (a.balanceAmount.toList ++ a.suppliedAmount.toList ++ a.vat.toList)

@[simp] theorem amounts_revise (v : Revision) (a : PaymentAnswer) :
    (a.revise v).amounts = a.amounts.map v.amount := by
  simp [amounts, revise, Option.toList_map]

theorem codec_gives (a : PaymentAnswer) : codec.Gives a (a.revise .reread) :=
  Codec.gives_record (by decide) (by simp [Fields.Gives, revise, Revision.reread]) rfl

theorem revise_of_read {d : Json.Document} {a : PaymentAnswer} (h : codec.read d = .ok a) :
    a.revise .reread = a.revise (.ofAmounts Decimal.reread) := by
  obtain ⟨⟨_, _, _, _, _, _, _, approvedAt, requestedAt, _, _, _, _⟩,
    ⟨-, -, -, -, -, -, -, happroved, hrequested, -⟩, hbuild⟩ := Codec.yields_of_record h
  cases hbuild
  have happroved := Instant.map_reread (Instant.obtainable_of_yields rfl rfl happroved)
  have hrequested := Instant.map_reread (Instant.obtainable_of_yields rfl rfl hrequested)
  simp [revise, Revision.reread, Revision.ofAmounts, happroved, hrequested]

theorem revise_of_amounts {f : Decimal → Decimal} {a : PaymentAnswer}
    (h : ∀ d ∈ a.amounts, f d = d) : a.revise (.ofAmounts f) = a := by
  have htotal := h a.totalAmount (by simp [amounts])
  have hbalance := Option.map_eq_self_of_mem (o := a.balanceAmount) fun d hd =>
    h d (by simp_all [amounts])
  have hsupplied := Option.map_eq_self_of_mem (o := a.suppliedAmount) fun d hd =>
    h d (by simp_all [amounts])
  have hvat := Option.map_eq_self_of_mem (o := a.vat) fun d hd => h d (by simp_all [amounts])
  simp [revise, Revision.ofAmounts, htotal, hbalance, hsupplied, hvat]

end PaymentAnswer

namespace CancelOrder

/-- The order with its amounts and times changed. -/
def revise (v : Revision) (o : CancelOrder) : CancelOrder :=
  { o with amount := o.amount.map v.amount }

/-- The amounts of the order. -/
def amounts (o : CancelOrder) : List Decimal :=
  o.amount.toList

@[simp] theorem amounts_revise (v : Revision) (o : CancelOrder) :
    (o.revise v).amounts = o.amounts.map v.amount := by
  simp [amounts, revise, Option.toList_map]

theorem codec_gives (o : CancelOrder) : codec.Gives o (o.revise .reread) :=
  Codec.gives_record (by decide) (by simp [Fields.Gives, revise, Revision.reread]) rfl

/-- An order has no times. -/
theorem revise_reread (o : CancelOrder) :
    o.revise .reread = o.revise (.ofAmounts Decimal.reread) := rfl

theorem revise_of_amounts {f : Decimal → Decimal} {o : CancelOrder}
    (h : ∀ d ∈ o.amounts, f d = d) : o.revise (.ofAmounts f) = o := by
  have hamount := Option.map_eq_self_of_mem (o := o.amount) fun d hd => h d (by simp_all [amounts])
  simp [revise, Revision.ofAmounts, hamount]

end CancelOrder

namespace Cancellation

/-- The cancellation with its amounts and times changed. -/
def revise (v : Revision) (c : Cancellation) : Cancellation :=
  { c with
    amount := v.amount c.amount
    canceledAt := c.canceledAt.map v.instant }

theorem codec_gives (c : Cancellation) : codec.Gives c (c.revise .reread) :=
  Codec.gives_record (by decide) (by simp [Fields.Gives, revise, Revision.reread]) rfl

@[simp] theorem list_codec_gives_iff {cs cs' : List Cancellation} :
    codec.list.Gives cs cs' ↔ cs' = cs.map (revise .reread) :=
  (Codec.Gives.list fun c _ => codec_gives c).iff

theorem revise_of_read {d : Json.Document} {c : Cancellation} (h : codec.read d = .ok c) :
    c.revise .reread = c.revise (.ofAmounts Decimal.reread) := by
  obtain ⟨⟨_, _, canceledAt, _, _⟩, ⟨-, -, htime, -⟩, hbuild⟩ := Codec.yields_of_record h
  cases hbuild
  have hmap := Instant.map_reread (Instant.obtainable_of_yields rfl rfl htime)
  simp [revise, Revision.reread, Revision.ofAmounts, hmap]

end Cancellation

namespace CancelAnswer

/-- The answer with its amounts and times changed. -/
def revise (v : Revision) (a : CancelAnswer) : CancelAnswer :=
  { a with
    totalAmount := v.amount a.totalAmount
    balanceAmount := a.balanceAmount.map v.amount
    cancels := a.cancels.map (Cancellation.revise v) }

/-- The amounts of the answer. -/
def amounts (a : CancelAnswer) : List Decimal :=
  a.totalAmount :: (a.balanceAmount.toList ++ a.cancels.map Cancellation.amount)

@[simp] theorem amounts_revise (v : Revision) (a : CancelAnswer) :
    (a.revise v).amounts = a.amounts.map v.amount := by
  have hcancels : Cancellation.amount ∘ Cancellation.revise v = v.amount ∘ Cancellation.amount :=
    rfl
  simp [amounts, revise, Option.toList_map, hcancels]

theorem codec_gives (a : CancelAnswer) : codec.Gives a (a.revise .reread) :=
  Codec.gives_record (by decide) (by simp [Fields.Gives, revise, Revision.reread]) rfl

theorem revise_of_read {d : Json.Document} {a : CancelAnswer} (h : codec.read d = .ok a) :
    a.revise .reread = a.revise (.ofAmounts Decimal.reread) := by
  obtain ⟨⟨_, _, _, _, _, cancels, _⟩, ⟨-, -, -, -, -, hcancels, -⟩, hbuild⟩ :=
    Codec.yields_of_record h
  cases hbuild
  have hmap : cancels.map (Cancellation.revise .reread) =
      cancels.map (Cancellation.revise (.ofAmounts Decimal.reread)) := by
    apply List.map_congr_left
    intro c hc
    rcases hcancels with ⟨d, hd⟩ | habsent
    · obtain ⟨d', hd'⟩ := Codec.read_of_list hd hc
      exact Cancellation.revise_of_read hd'
    · cases habsent
      cases hc
  simp only [revise, hmap]
  rfl

theorem revise_of_amounts {f : Decimal → Decimal} {a : CancelAnswer}
    (h : ∀ d ∈ a.amounts, f d = d) : a.revise (.ofAmounts f) = a := by
  have htotal := h a.totalAmount (by simp [amounts])
  have hbalance := Option.map_eq_self_of_mem (o := a.balanceAmount) fun d hd =>
    h d (by simp_all [amounts])
  have hcancels : a.cancels.map (Cancellation.revise (.ofAmounts f)) = a.cancels := by
    refine Eq.trans (List.map_congr_left fun c hc => ?_) (List.map_id a.cancels)
    have := h c.amount (by
      simp only [amounts, List.mem_cons, List.mem_append, List.mem_map]
      exact .inr (.inr ⟨c, hc, rfl⟩))
    simp [Cancellation.revise, Revision.ofAmounts, this]
  simp only [revise, hcancels]
  simp [Revision.ofAmounts, htotal, hbalance]

end CancelAnswer

end Gateway

end Payments
