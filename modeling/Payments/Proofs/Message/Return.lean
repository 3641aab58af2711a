import Payments.Proofs.Message.Command

/-!
# Payments.Proofs.Message.Return -- messages come back

Whatever message the service reads, the text it would write of it is read again, and as the same
message. The only thing that may be lost is the sign of an amount that is zero: plain digits never
give such a sign, but an amount with an exponent may be rounded to zero from below, and the text
written of it is plain. The sign is lost at the first return, and nothing more at any later one. A
message whose amounts have no such sign comes back equal in every field, so that its text is the
same to the byte (`messages_return`).
-/

namespace Payments

open Json (Codec)
open Gateway (PaymentAnswer CancelOrder CancelAnswer)

/-- The text written of a message that was read is read as the message with the signs of its zero
amounts dropped. That one comes back as it is, and it is the message itself if there were no signs
to drop. -/
def Returns {α : Type} (c : Codec α) (revise : Revision → α → α) (amounts : α → List Decimal) :
    Prop :=
  ∀ (text : String) (a : α), c.parse text = .ok a →
    ∃ b, b = revise (.ofAmounts Decimal.reread) a ∧ c.parse (c.render a) = .ok b ∧
      c.parse (c.render b) = .ok b ∧ ((∀ d ∈ amounts a, ¬ d.IsNegativeZero) → b = a)

section

variable {α : Type} {c : Codec α} {revise : Revision → α → α} {amounts : α → List Decimal}

/-- A kind of message returns if it is read as a revision of itself, and if none of the times that
it was read with are revised. -/
theorem Returns.of_gives (hgives : ∀ a, c.Gives a (revise .reread a))
    (htimes : ∀ {d a}, c.read d = .ok a → revise .reread a = revise (.ofAmounts Decimal.reread) a)
    (hsame : ∀ {f : Decimal → Decimal} {a}, (∀ d ∈ amounts a, f d = d) →
      revise (.ofAmounts f) a = a)
    (hamounts : ∀ v a, amounts (revise v a) = (amounts a).map v.amount) :
    Returns c revise amounts := by
  intro text a ha
  obtain ⟨d, hd⟩ := Codec.read_of_parse ha
  have hfirst := hgives a
  rw [htimes hd] at hfirst
  -- what came back was read as well, and its amounts have no signs left to lose
  have hsecond := hgives (revise (.ofAmounts Decimal.reread) a)
  have htwice : revise (.ofAmounts Decimal.reread) (revise (.ofAmounts Decimal.reread) a) =
      revise (.ofAmounts Decimal.reread) a := by
    apply hsame
    intro x hx
    rw [hamounts] at hx
    obtain ⟨y, -, rfl⟩ := List.mem_map.1 hx
    exact y.reread_reread
  rw [htimes hfirst.reads, htwice] at hsecond
  refine ⟨_, rfl, hfirst.parse, hsecond.parse, ?_⟩
  intro hsigns
  exact hsame fun d hd => Decimal.reread_eq_self_iff.2 (hsigns d hd)

end

/-- Every message comes back: commands of both kinds, registrations, refund requests, what is said
to the gateway and what it answers, and both announcements. An amount comes back as the same number
with the same places. -/
theorem messages_return :
    Returns Command.codec Command.revise Command.amounts ∧
    Returns Registration.codec Registration.revise Registration.amounts ∧
    Returns RefundRequest.codec RefundRequest.revise (fun _ => []) ∧
    Returns PaymentAnswer.codec PaymentAnswer.revise PaymentAnswer.amounts ∧
    Returns CancelOrder.codec CancelOrder.revise CancelOrder.amounts ∧
    Returns CancelAnswer.codec CancelAnswer.revise CancelAnswer.amounts ∧
    Returns RefundDone.codec RefundDone.revise RefundDone.amounts ∧
    Returns RefundFailed.codec RefundFailed.revise RefundFailed.amounts ∧
    ∀ d : Decimal, d.reread.units = d.units ∧ d.reread.scale = d.scale := by
  refine ⟨?command, ?registration, ?request, ?payment, ?order, ?answer, ?done, ?failed, ?amount⟩
  case command =>
    exact .of_gives Command.codec_gives Command.revise_of_read Command.revise_of_amounts
      Command.amounts_revise
  case registration =>
    exact .of_gives Registration.codec_gives (fun _ => Registration.revise_reread _)
      Registration.revise_of_amounts Registration.amounts_revise
  case request =>
    exact .of_gives RefundRequest.codec_gives RefundRequest.revise_of_read
      (fun _ => RefundRequest.revise_ofAmounts _ _) fun _ _ => rfl
  case payment =>
    exact .of_gives PaymentAnswer.codec_gives PaymentAnswer.revise_of_read
      PaymentAnswer.revise_of_amounts PaymentAnswer.amounts_revise
  case order =>
    exact .of_gives CancelOrder.codec_gives (fun _ => CancelOrder.revise_reread _)
      CancelOrder.revise_of_amounts CancelOrder.amounts_revise
  case answer =>
    exact .of_gives CancelAnswer.codec_gives CancelAnswer.revise_of_read
      CancelAnswer.revise_of_amounts CancelAnswer.amounts_revise
  case done =>
    exact .of_gives RefundDone.codec_gives RefundDone.revise_of_read RefundDone.revise_of_amounts
      RefundDone.amounts_revise
  case failed =>
    exact .of_gives RefundFailed.codec_gives RefundFailed.revise_of_read
      RefundFailed.revise_of_amounts RefundFailed.amounts_revise
  case amount => exact fun d => ⟨d.units_reread, d.reread_scale⟩

/-- A payment in a state that is not known here, with one optional value given as `null` and the
others left out: the state stays unknown, no value appears, and nothing else changes. -/
theorem messages_return_unknown :
    ∃ a, PaymentAnswer.codec.parse
        ("\x7b\"paymentKey\":\"k\",\"orderId\":\"o\",\"status\":\"HELD\"," ++
          "\"totalAmount\":10.5,\"vat\":null\x7d") = .ok a ∧
      a.status = .unknown ∧ a.vat = none ∧ a.method = none ∧
      PaymentAnswer.codec.parse (PaymentAnswer.codec.render a) = .ok a := by
  obtain ⟨-, -, -, hpayment, -⟩ := messages_return
  have hread : PaymentAnswer.codec.parse
      ("\x7b\"paymentKey\":\"k\",\"orderId\":\"o\",\"status\":\"HELD\"," ++
        "\"totalAmount\":10.5,\"vat\":null\x7d") =
        .ok ⟨"k", "o", .unknown, ⟨false, 105, 1, by decide, by decide⟩, none, none, none, none,
          none, none, none, none⟩ := by
    decide +kernel
  obtain ⟨b, -, hreturn, -, hsame⟩ := hpayment _ _ hread
  rw [hsame (by decide)] at hreturn
  exact ⟨_, hread, rfl, rfl, rfl, hreturn⟩

/-- An order whose amount is rounded to zero from below does not come back with the same text. -/
theorem order_loses_sign :
    ∃ o o', CancelOrder.codec.parse
        "\x7b\"cancelReason\":\"r\",\"cancelAmount\":\"-0.1e-28\"\x7d" = .ok o ∧
      CancelOrder.codec.parse (CancelOrder.codec.render o) = .ok o' ∧
      CancelOrder.codec.render o' ≠ CancelOrder.codec.render o := by
  refine ⟨⟨"r", some ⟨true, 0, 28, by decide, by decide⟩⟩, _, by decide +kernel,
    (CancelOrder.codec_gives _).parse, by decide +kernel⟩

end Payments
