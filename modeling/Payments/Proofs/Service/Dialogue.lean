import Payments.Procedure

/-!
# Payments.Proofs.Service.Dialogue -- what a call has asked so far, and what it was answered

A call that is under way can be known from outside only by its dialogue: the requests it has put so
far, each with the answer. `Procedure.Reaches` relates a procedure, a dialogue and what the
procedure still has to do afterwards. It says nothing about who gave the answers, so what is shown
of the dialogues of a procedure holds among any other calls.
-/

namespace Payments

/-- A request and the answer to it. -/
structure Reply where
  request : Request
  answer : request.Answer

/-- A payment was not stored because its gateway payment was. -/
abbrev Reply.lost (p : Payment) (gatewayPaymentId : String) : Reply :=
  ⟨.store (.save p), refuse (.duplicateGatewayPayment gatewayPaymentId)⟩

namespace Procedure

variable {α : Type}

/-- Once its requests have been answered as the dialogue says, the first procedure has the second
left to do. -/
inductive Reaches : Procedure α → List Reply → Procedure α → Prop where
  | here (p : Procedure α) : Reaches p [] p
  | there {r : Request} {next : r.Answer → Procedure α} {a : r.Answer} {d : List Reply}
      {q : Procedure α} (h : Reaches (next a) d q) : Reaches (ask r next) (⟨r, a⟩ :: d) q

namespace Reaches

variable {p q : Procedure α} {d : List Reply}

/-- One more answer takes the procedure one request further. -/
theorem snoc {r : Request} {next : r.Answer → Procedure α} (h : p.Reaches d (ask r next))
    (a : r.Answer) : p.Reaches (d ++ [⟨r, a⟩]) (next a) := by
  generalize hq : ask r next = q at h
  induction h with
  | here p =>
    subst hq
    exact .there (.here (next a))
  | there _ ih => exact .there (ih hq)

/-- A procedure that is done asks nothing more. -/
theorem of_done {o : α} (h : (done o).Reaches d q) : d = [] ∧ q = done o := by
  cases h
  exact ⟨rfl, rfl⟩

end Reaches

end Procedure

end Payments
