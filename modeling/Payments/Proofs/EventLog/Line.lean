import Payments.Proofs.Message.Command

/-!
# Payments.Proofs.EventLog.Line -- the line of an announcement

A line of the log is the text of an envelope, and the envelope holds the announcement as a value
with its entries in order. The line is read as that envelope: nothing in it depends on the order of
the entries, and the value is not nested too deep to be read. From the value the announcement is
read again, by the kind that the envelope names (`Envelope.carries_of`). A line has no line feed in
it (`Envelope.newline_not_mem_line`).
-/

namespace Payments

open Json (Codec Fault Fields Row)

/-! ## Announcements -/

namespace Event

/-- The kind of the announcement. -/
def type : Event → EventType
  | .refunded _ => .refunded
  | .refundFailed _ => .refundFailed

/-- The announcement with its amounts and times changed. -/
def revise (v : Revision) : Event → Event
  | .refunded e => .refunded (e.revise v)
  | .refundFailed e => .refundFailed (e.revise v)

/-- The amounts of the announcement. -/
def amounts : Event → List Decimal
  | .refunded e => e.amounts
  | .refundFailed e => e.amounts

/-- When it happened. -/
def instant : Event → Instant
  | .refunded e => e.refundedAt
  | .refundFailed e => e.failedAt

/-- Two announcements say the same: they are equal in everything, amounts compared as numbers. -/
def Same (a b : Event) : Prop :=
  a.revise (.ofAmounts Decimal.normalize) = b.revise (.ofAmounts Decimal.normalize)

/-- The announcement as it is told: a leap second amid a minute is told as the second after it. -/
def told (e : Event) : Event :=
  e.revise ⟨id, Instant.reread, id⟩

theorem told_of_obtainable {e : Event} (h : e.instant.Obtainable) : e.told = e := by
  cases e with
  | refunded e =>
    have hinstant : e.refundedAt.reread = e.refundedAt := h.reread
    simp [told, revise, RefundDone.revise, hinstant]
  | refundFailed e =>
    have hinstant : e.failedAt.reread = e.failedAt := h.reread
    simp [told, revise, RefundFailed.revise, hinstant]

/-- What is read is what was told, but for the signs of zeros. -/
theorem revise_reread (e : Event) :
    e.revise .reread = e.told.revise (.ofAmounts Decimal.reread) := by
  cases e <;> rfl

theorem amounts_told (e : Event) : e.told.amounts = e.amounts := by
  cases e <;> rfl

theorem revise_of_amounts {f : Decimal → Decimal} {e : Event} (h : ∀ d ∈ e.amounts, f d = d) :
    e.revise (.ofAmounts f) = e := by
  cases e with
  | refunded e => exact congrArg Event.refunded (RefundDone.revise_of_amounts h)
  | refundFailed e => exact congrArg Event.refundFailed (RefundFailed.revise_of_amounts h)

/-- The sign of a zero makes no difference to what is said. -/
theorem same_reread (e : Event) : (e.revise (.ofAmounts Decimal.reread)).Same e := by
  cases e <;>
    simp [Same, revise, RefundDone.revise, RefundFailed.revise, Revision.ofAmounts]

end Event

/-- Reads an announcement of the kind from a text. -/
def EventType.parse : EventType → String → Except Fault Event
  | .refunded, text => (RefundDone.codec.parse text).map .refunded
  | .refundFailed, text => (RefundFailed.codec.parse text).map .refundFailed

/-- The topic of announcements of the kind. -/
def Topics.topic (t : Topics) : EventType → String
  | .refunded => t.refunded
  | .refundFailed => t.refundFailed

/-! ## Envelopes -/

namespace Envelope

/-- A record of plain values, put in order, is read as it was written, and the record from it. -/
theorem inOrder_gives {ρ : Type} {c : Codec ρ} {αs : List Type} {fs : Fields ρ αs}
    {build : Row αs → Except Fault ρ} (hc : c = .record fs build) {a b : ρ}
    (hnames : fs.names.Nodup) (hplain : fs.ArePlain) (h : fs.Gives a b)
    (hbuild : build (fs.row b) = .ok b) :
    (Codec.any depthLimit).Gives (inOrder (c.write a)) (inOrder (c.write a)) ∧
      c.parse (inOrder (c.write a)).render = .ok b := by
  subst hc
  obtain ⟨hany, hread⟩ := Codec.gives_sorted hnames hplain h hbuild 125
  exact ⟨hany, Codec.parse_of_read hany.exact hread⟩

/-- The payload of an announcement is read as it was written, and the announcement from it. -/
theorem payload_gives (e : Event) :
    (Codec.any depthLimit).Gives (inOrder e.write) (inOrder e.write) ∧
      e.type.parse (inOrder e.write).render = .ok (e.revise .reread) := by
  cases e with
  | refunded e =>
    obtain ⟨hany, hparse⟩ := inOrder_gives (c := RefundDone.codec) rfl (a := e)
      (b := e.revise .reread) (by decide) (by simp [Fields.ArePlain])
      (by simp [Fields.Gives, RefundDone.revise, Revision.reread]) rfl
    exact ⟨hany, by simp only [Event.type, EventType.parse, Event.write, hparse, Except.map,
      Event.revise]⟩
  | refundFailed e =>
    obtain ⟨hany, hparse⟩ := inOrder_gives (c := RefundFailed.codec) rfl (a := e)
      (b := e.revise .reread) (by decide) (by simp [Fields.ArePlain])
      (by simp [Fields.Gives, RefundFailed.revise, Revision.reread]) rfl
    exact ⟨hany, by simp only [Event.type, EventType.parse, Event.write, hparse, Except.map,
      Event.revise]⟩

variable (topics : Topics) (eventId : String) (at_ : Instant) (e : Event)

/-- The envelope of an announcement is read as it was written, but for an instant that no clock and
no text gives. -/
theorem gives_of :
    codec.Gives (of topics eventId at_ e)
      { of topics eventId at_ e with occurredAt := at_.reread } := by
  refine Codec.gives_record (by decide) ?_ rfl
  simp [Fields.Gives, of, payload_gives]

theorem eventType_of : (of topics eventId at_ e).eventType = e.type := by
  cases e <;> rfl

/-- The announcement is read from the payload of its envelope, as far as texts tell it. -/
theorem parse_payload :
    (of topics eventId at_ e).eventType.parse (of topics eventId at_ e).payload.render =
      .ok (e.revise .reread) := by
  rw [eventType_of]
  exact (payload_gives e).2

/-- A line has no line feed in it. -/
theorem newline_not_mem_line : '\n' ∉ (of topics eventId at_ e).line.toList := by
  have h := Json.newline_not_mem_chars _ (gives_of topics eventId at_ e).exact
  simpa [line, Codec.render, Json.Value.render] using h

/-- The envelope tells where the announcement goes and who makes it, and the announcement is read
from its payload: what is read says the same as was told, and is equal to it in everything if no
amount is a zero with a sign. What was told is the announcement itself, unless its instant is one
that no clock and no text gives. -/
structure Carries (topics : Topics) (envelope : Envelope) (e : Event) : Prop where
  topic : envelope.topic = topics.topic e.type
  eventType : envelope.eventType = e.type
  key : envelope.key = e.orderId
  source : envelope.source = topics.source
  payload : ∃ e', envelope.eventType.parse envelope.payload.render = .ok e' ∧ e'.Same e.told ∧
    ((∀ d ∈ e.amounts, ¬ d.IsNegativeZero) → e' = e.told)
  told : e.instant.Obtainable → e.told = e

/-- The line of an announcement is read as an envelope that carries it. -/
theorem carries_of :
    ∃ envelope, codec.parse (of topics eventId at_ e).line = .ok envelope ∧
      envelope.Carries topics e := by
  have htopic : (of topics eventId at_ e).topic = topics.topic e.type := by
    cases e <;> rfl
  have hpayload := parse_payload topics eventId at_ e
  rw [e.revise_reread] at hpayload
  refine ⟨_, (gives_of topics eventId at_ e).parse, ?_⟩
  refine
    { topic := htopic
      eventType := eventType_of topics eventId at_ e
      key := rfl
      source := rfl
      payload := ⟨_, hpayload, e.told.same_reread, ?_⟩
      told := Event.told_of_obtainable }
  intro hsigns
  apply Event.revise_of_amounts
  intro d hd
  rw [e.amounts_told] at hd
  exact Decimal.reread_eq_self_iff.2 (hsigns d hd)

end Envelope

end Payments
