import Payments.Proofs.Ledger.Loading
import Payments.Proofs.Message.Values

/-!
# Payments.Proofs.Payment.Snapshot -- a stored payment comes back as it was

A payment is stored as text and read again. It comes back equal in every field if its ledger is
sound, its instants are such as a clock or a text gives, and its version has at most 64 bits
(`Payment.Storable`). A new payment is storable, whatever is read is, and every change to a payment
keeps it so: the steps of its life, and what a store does to it. So every payment that can come up
survives storage (`Payment.snapshot_returns`).
-/

namespace Payments

open Json (Codec Document Fields)

namespace Gateway.Reference

/-- The instants of the reference are such as a clock or a text gives. -/
structure Timely (r : Reference) : Prop where
  approvedAt : ∀ t ∈ r.approvedAt, t.Obtainable
  refundedAt : ∀ t ∈ r.refundedAt, t.Obtainable

end Gateway.Reference

/-! ## The parts of a payment -/

theorem Gateway.Reference.Timely.codec_gives {r : Gateway.Reference} (h : r.Timely) :
    Gateway.Reference.codec.Gives r r :=
  Codec.gives_record (by decide)
    (by simp [Fields.Gives, Instant.map_reread h.approvedAt, Instant.map_reread h.refundedAt]) rfl

theorem Gateway.Reference.timely_of_read {d : Document} {r : Gateway.Reference}
    (h : codec.read d = .ok r) : r.Timely := by
  obtain ⟨⟨_, _, _, _, approvedAt, _, refundedAt, _⟩, ⟨-, -, -, -, happroved, -, hrefunded, -⟩,
    hbuild⟩ := Codec.yields_of_record h
  cases hbuild
  exact ⟨Instant.obtainable_of_yields rfl rfl happroved,
    Instant.obtainable_of_yields rfl rfl hrefunded⟩

theorem Payer.codec_gives (p : Payer) : codec.Gives p p :=
  Codec.gives_record (by decide) (by simp [Fields.Gives]) rfl

theorem Payee.codec_gives (p : Payee) : codec.Gives p p :=
  Codec.gives_record (by decide) (by simp [Fields.Gives]) rfl

theorem Deletion.codec_gives {x : Deletion} (h : x.deletedAt.Obtainable) : codec.Gives x x :=
  Codec.gives_record (by decide) (by simp [Fields.Gives, h.reread]) rfl

theorem Deletion.obtainable_of_read {d : Document} {x : Deletion} (h : codec.read d = .ok x) :
    x.deletedAt.Obtainable := by
  obtain ⟨⟨_, deletedAt, _⟩, ⟨-, htime, -⟩, hbuild⟩ := Codec.yields_of_record h
  cases hbuild
  obtain ⟨d', hd'⟩ := Json.Field.yields_required.1 htime
  exact Instant.obtainable_of_read hd'

theorem Deletion.optional_codec_gives {o : Option Deletion}
    (h : ∀ x ∈ o, x.deletedAt.Obtainable) : codec.optional.Gives o o :=
  Codec.Gives.optional_self Codec.write_record_ne_null fun x hx => Deletion.codec_gives (h x hx)

namespace Payment

/-! ## Storable payments -/

/-- What is needed of a payment so that it can be read back. -/
structure Storable (p : Payment) : Prop where
  ledger : p.ledger.Sound
  reference : p.reference.Timely
  createdAt : p.createdAt.Obtainable
  verifiedAt : ∀ t ∈ p.verifiedAt, t.Obtainable
  refundedAt : ∀ t ∈ p.refundedAt, t.Obtainable
  updatedAt : ∀ t ∈ p.updatedAt, t.Obtainable
  deletion : ∀ x ∈ p.deletion, x.deletedAt.Obtainable
  version : p.version < twoTo 64

theorem Storable.codec_gives {p : Payment} (h : p.Storable) : codec.Gives p p := by
  refine Codec.gives_record (by decide) ?_ rfl
  simp [Fields.Gives, h.ledger.codec_gives, h.reference.codec_gives, Payer.codec_gives,
    Payee.codec_gives, h.createdAt.reread, Instant.map_reread h.verifiedAt,
    Instant.map_reread h.refundedAt, Instant.map_reread h.updatedAt,
    Deletion.optional_codec_gives h.deletion, Codec.gives_count h.version]

/-- Whatever is read as a payment is storable. -/
theorem storable_of_read {d : Document} {p : Payment} (h : codec.read d = .ok p) : p.Storable := by
  obtain ⟨⟨_, _, ledger, reference, _, _, _, _, _, _, createdAt, verifiedAt, refundedAt, updatedAt,
    deletion, version, _⟩, ⟨-, -, hledger, hreference, -, -, -, -, -, -, hcreated, hverified,
    hrefunded, hupdated, hdeletion, hversion, -⟩, hbuild⟩ := Codec.yields_of_record h
  cases hbuild
  obtain ⟨dl, hledger⟩ := Json.Field.yields_required.1 hledger
  obtain ⟨dr, hreference⟩ := Json.Field.yields_required.1 hreference
  obtain ⟨dc, hcreated⟩ := Json.Field.yields_required.1 hcreated
  refine
    { ledger := Ledger.sound_of_read hledger
      reference := Gateway.Reference.timely_of_read hreference
      createdAt := Instant.obtainable_of_read hcreated
      verifiedAt := Instant.obtainable_of_yields rfl rfl hverified
      refundedAt := Instant.obtainable_of_yields rfl rfl hrefunded
      updatedAt := Instant.obtainable_of_yields rfl rfl hupdated
      deletion := ?_
      version := ?_ }
  · intro x hx
    obtain ⟨dx, hx⟩ := Json.Field.read_of_yields rfl rfl hdeletion hx
    exact Deletion.obtainable_of_read hx
  · rcases Json.Field.yields_defaulted.1 hversion with ⟨dv, hread⟩ | habsent
    · exact Codec.lt_of_read_count hread
    · subst habsent
      exact Nat.two_pow_pos 64

/-! ## Changes -/

/-- What happens to a payment: a step of its life, or what a store does to it. -/
inductive Change where
  | step (t : Transition)
  | assignId (id : PaymentId)
  | touch (now : Instant)
  | markDeleted (deletedBy : String) (now : Instant)

/-- Makes the change. -/
def Change.apply (p : Payment) : Change → Outcome Payment
  | step t => t.apply p
  | assignId id => p.assignId id
  | touch now => p.touch now
  | markDeleted deletedBy now => .ok (p.markDeleted deletedBy now)

/-- The instants that the change enters into the payment. -/
def Change.instants : Change → List Instant
  | step (.verify _ now) => [now]
  | step (.completeRefund _ _ now) => [now]
  | step _ => []
  | assignId _ => []
  | touch now => [now]
  | markDeleted _ now => [now]

theorem Transition.storable {t : Transition} {p q : Payment} (hp : p.Storable)
    (ht : ∀ now ∈ (Change.step t).instants, now.Obtainable) (h : t.apply p = .ok q) :
    q.Storable := by
  cases t with
  | startVerification =>
    obtain ⟨-, rfl⟩ := startVerification_eq_ok.1 h
    exact { hp with }
  | verify checkedAt now =>
    obtain ⟨-, -, rfl⟩ := verify_eq_ok.1 h
    have hnow : now.Obtainable := ht now (by simp [Change.instants])
    exact { hp with verifiedAt := by rintro _ ⟨⟩; exact hnow }
  | failVerification reason =>
    obtain ⟨-, rfl⟩ := failVerification_eq_ok.1 h
    exact { hp with }
  | startRefund amount reason =>
    obtain ⟨-, -, -, rfl⟩ := startRefund_eq_ok.1 h
    exact { hp with }
  | completeRefund amount refundId now =>
    obtain ⟨-, ledger, hledger, rfl⟩ := completeRefund_eq_ok.1 h
    have hnow : now.Obtainable := ht now (by simp [Change.instants])
    exact
      { hp with
        ledger := hp.ledger.refund hledger
        reference := ⟨hp.reference.approvedAt, by rintro _ ⟨⟩; exact hnow⟩
        refundedAt := by rintro _ ⟨⟩; exact hnow }
  | failRefund reason =>
    obtain ⟨-, rfl⟩ := failRefund_eq_ok.1 h
    exact { hp with }
  | cancel reason =>
    obtain ⟨-, rfl⟩ := cancel_eq_ok.1 h
    exact { hp with }

/-- A storable payment stays storable, whatever happens to it. -/
theorem Change.storable {c : Change} {p q : Payment} (hp : p.Storable)
    (hc : ∀ now ∈ c.instants, now.Obtainable) (h : c.apply p = .ok q) : q.Storable := by
  cases c with
  | step t => exact Transition.storable hp hc h
  | assignId id =>
    replace h : p.assignId id = .ok q := h
    unfold Payment.assignId at h
    split at h
    · cases h
    · cases h
      exact { hp with }
  | touch now =>
    replace h : p.touch now = .ok q := h
    unfold Payment.touch at h
    split at h
    · next hversion =>
      cases h
      have hnow : now.Obtainable := hc now (by simp [instants])
      exact { hp with updatedAt := by rintro _ ⟨⟩; exact hnow, version := hversion }
    · cases h
  | markDeleted deletedBy now =>
    cases h
    have hnow : now.Obtainable := hc now (by simp [instants])
    exact
      { hp with
        updatedAt := by rintro _ ⟨⟩; exact hnow
        deletion := by rintro _ ⟨⟩; exact hnow }

/-- The payment after changes were tried one after another: one that is refused leaves it as it was.
-/
def changeAll (p : Payment) (cs : List Change) : Payment :=
  cs.foldl (fun p c =>
    match c.apply p with
    | .ok q => q
    | .error _ => p) p

theorem Storable.changeAll {p : Payment} (hp : p.Storable) {cs : List Change}
    (hcs : ∀ c ∈ cs, ∀ now ∈ c.instants, now.Obtainable) : (p.changeAll cs).Storable := by
  induction cs generalizing p with
  | nil => exact hp
  | cons c cs ih =>
    have hrest : ∀ c ∈ cs, ∀ now ∈ c.instants, now.Obtainable := fun x hx =>
      hcs x (List.mem_cons_of_mem c hx)
    rw [Payment.changeAll, List.foldl_cons]
    split
    · next q hq => exact ih (c.storable hp (hcs c List.mem_cons_self) hq) hrest
    · exact ih hp hrest

/-- A payment that was just created, with instants that a clock or a text gave, or that was read. -/
inductive Given (p : Payment) : Prop where
  | created {orderId : String} {amount : Decimal} {reference : Gateway.Reference} {payer : Payer}
      {payee : Payee} {now : Instant} (hreference : reference.Timely) (hnow : now.Obtainable)
      (h : create orderId amount reference payer payee now = .ok p)
  | read {text : String} (h : codec.parse text = .ok p)

theorem Given.storable {p : Payment} (h : p.Given) : p.Storable := by
  cases h with
  | created hreference hnow h =>
    obtain ⟨ledger, hledger, rfl⟩ := create_eq_ok h
    exact
      { ledger := Ledger.sound_inCurrency hledger
        reference := hreference
        createdAt := hnow
        verifiedAt := by simp
        refundedAt := by simp
        updatedAt := by simp
        deletion := by simp
        version := Nat.two_pow_pos 64 }
  | read h =>
    obtain ⟨d, hd⟩ := Codec.read_of_parse h
    exact storable_of_read hd

/-- Whatever happens to a payment that was created or read, at instants that a clock or a text
gives: its text is read as a payment that is equal to it in every field and has the same text, and
its ledger passes the checks that are made on the way. -/
theorem snapshot_returns {p : Payment} (hp : p.Given) (cs : List Change)
    (hcs : ∀ c ∈ cs, ∀ now ∈ c.instants, now.Obtainable) :
    (∃ q, codec.parse (codec.render (p.changeAll cs)) = .ok q ∧ q = p.changeAll cs ∧
        codec.render q = codec.render (p.changeAll cs)) ∧
      Ledger.load (p.changeAll cs).ledger.amount (p.changeAll cs).ledger.refunded
        (some (p.changeAll cs).ledger.currency) = .ok (p.changeAll cs).ledger := by
  have h := hp.storable.changeAll hcs
  exact ⟨⟨_, h.codec_gives.parse, rfl, rfl⟩, h.ledger.load⟩

/-- A payment of 100.00, of which 40.5 are refunded in a leap second, and which is then stored and
deleted. -/
theorem snapshot_returns_of_leap_second :
    let leap : Instant := ⟨⟨2016, 12, 31, by decide⟩, 86399, 1500000000, by decide, by decide⟩
    let hundred : Decimal := ⟨false, 10000, 2, by decide, by decide⟩
    let forty : Decimal := ⟨false, 405, 1, by decide, by decide⟩
    ∃ p, p.status = .partiallyRefunded ∧ p.ledger = ⟨hundred, forty, "KRW"⟩ ∧
      p.refundedAt = some leap ∧ p.deletion = some ⟨"auditor", leap⟩ ∧ p.version = 1 ∧
      codec.parse (codec.render p) = .ok p := by
  intro leap hundred forty
  let cs : List Change :=
    [.step .startVerification, .step (.verify leap leap), .step (.startRefund forty "damaged"),
      .step (.completeRefund forty "refund-1" leap), .assignId ⟨"x", by decide⟩, .touch leap,
      .markDeleted "auditor" leap]
  have hleap : leap.Obtainable := .text "2016-12-31T23:59:60.5Z" (by decide +kernel)
  have hcreated : create "order-1" hundred ⟨"TOSS", "pg-1", none, none, some leap, none, none⟩
      ⟨"company-1", "Payer", none, none⟩ ⟨"company-2", "Payee"⟩ leap = .ok _ := rfl
  obtain ⟨⟨q, hparse, rfl, -⟩, -⟩ := snapshot_returns
    (.created ⟨by simpa using hleap, by simp⟩ hleap hcreated) cs
    (by simpa [cs, Change.instants] using hleap)
  exact ⟨_, by decide +kernel, by decide +kernel, by decide +kernel, by decide +kernel,
    by decide +kernel, hparse⟩

end Payment

end Payments
