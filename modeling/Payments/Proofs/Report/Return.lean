import Mathlib.Data.List.Forall2
import Payments.Proofs.Decimal.Text
import Payments.Proofs.Payment.Completion
import Payments.Proofs.Report.Csv

/-!
# Payments.Proofs.Report.Return -- a report can be read back

A report is its header and the rows of all payments, one after another, or nothing if there are no
payments; how the payments were cut into batches cannot be told from it (`Report.ofBatches_eq`). So
what a reader of comma-separated values finds in it is a header and one row for each payment
(`Report.report_returns`). A row shows its payment (`Report.Portrays`): texts as they are, amounts
as the shortest text of the number, times to the second, and missing times as empty fields.
-/

namespace Payments.Report

open Csv

/-! ## Batches -/

/-- The text of payments without a header. -/
def body (ps : List Payment) : String :=
  String.ofList ((ps.map fields).flatMap rowChars)

theorem write_of_ne_nil (progress : Progress) {batch : List Payment} (h : batch ≠ []) :
    progress.write batch =
      (String.ofList (if progress.started then [] else rowChars columns) ++ body batch,
        ⟨true⟩) := by
  have hnonempty : batch.isEmpty = false := List.isEmpty_eq_false_iff.2 h
  rw [Progress.write, hnonempty, body, List.flatMap_map, ← String.ofList_append]
  rfl

/-- Behind the header, batches follow one another without a seam. -/
theorem writeAll_started (batches : List (List Payment)) :
    writeAll ⟨true⟩ batches = body batches.flatten := by
  induction batches with
  | nil => rfl
  | cons batch rest ih =>
    by_cases hbatch : batch = []
    · subst hbatch
      exact (String.empty_append).trans ih
    · have hwrite := write_of_ne_nil ⟨true⟩ hbatch
      rw [writeAll, hwrite]
      show String.ofList [] ++ body batch ++ writeAll ⟨true⟩ rest = _
      rw [ih]
      simp [body]

/-- The header stands before the first row. -/
theorem ofBatches_eq (batches : List (List Payment)) :
    ofBatches batches =
      if batches.flatten = [] then "" else
        String.ofList ((columns :: batches.flatten.map fields).flatMap rowChars) := by
  rw [ofBatches, Progress.start]
  -- the induction passes over empty batches only: behind the first payment the header is written
  induction batches with
  | nil => rfl
  | cons batch rest ih =>
    by_cases hbatch : batch = []
    · subst hbatch
      exact (String.empty_append).trans ih
    · have hwrite := write_of_ne_nil ⟨false⟩ hbatch
      have hflatten : (batch :: rest).flatten ≠ [] := by simp [hbatch]
      rw [writeAll, hwrite, if_neg hflatten]
      show String.ofList (rowChars columns) ++ body batch ++ writeAll ⟨true⟩ rest = _
      rw [writeAll_started]
      simp [body, String.append_assoc]

/-! ## Rows -/

/-- The field of a time that may be missing: empty if it is, and else the time to the second. -/
def ShowsTime (field : String) : Option Instant → Prop
  | none => field = ""
  | some t => field = t.toTextSeconds ∧ field ≠ ""

theorem showsTime (t : Option Instant) : ShowsTime ((t.map Instant.toTextSeconds).getD "") t := by
  cases t with
  | none => rfl
  | some t =>
    refine ⟨rfl, fun hempty => ?_⟩
    have hchars := congrArg String.toList hempty
    simp [Instant.toTextSeconds] at hchars

/-- A row shows a payment. -/
inductive Portrays (p : Payment) : List String → Prop where
  | row {status amount refunded verifiedAt refundedAt : String}
      (hstatus : Status.codec.write p.status = .text status)
      (hamount : p.ledger.amount.IsShortest amount)
      (hrefunded : p.ledger.refunded.IsShortest refunded)
      (hverifiedAt : ShowsTime verifiedAt p.verifiedAt)
      (hrefundedAt : ShowsTime refundedAt p.refundedAt) :
      Portrays p
        [p.idText, p.orderId, status, amount, refunded, p.ledger.currency, p.reference.provider,
          p.reference.paymentId, verifiedAt, refundedAt]

theorem portrays_fields (p : Payment) : Portrays p (fields p) :=
  .row rfl (Decimal.isShortest_toText_normalize _) (Decimal.isShortest_toText_normalize _)
    (showsTime _) (showsTime _)

/-- Whatever payments are written in whatever batches: without a payment the report is empty, and
with one it is read as a header with the names of the ten columns and one row of ten fields for each
payment, in order, that shows the payment. The report depends only on the payments in order, not on
the batches. -/
theorem report_returns (batches : List (List Payment)) :
    (batches.flatten = [] → ofBatches batches = "") ∧
      (batches.flatten ≠ [] → ∃ rows, read (ofBatches batches) = some (columns :: rows) ∧
        List.Forall₂ Portrays batches.flatten rows) ∧
      ∀ others : List (List Payment), others.flatten = batches.flatten →
        ofBatches others = ofBatches batches := by
  refine ⟨?_, ?_, ?_⟩
  · intro hnone
    rw [ofBatches_eq, if_pos hnone]
  · intro hsome
    refine ⟨batches.flatten.map fields, ?_, ?_⟩
    · rw [ofBatches_eq, if_neg hsome]
      apply read_rowChars
      intro row hrow
      rcases List.mem_cons.1 hrow with rfl | hrow
      · exact List.cons_ne_nil _ _
      · obtain ⟨p, -, rfl⟩ := List.mem_map.1 hrow
        exact List.cons_ne_nil _ _
    · rw [List.forall₂_map_right_iff, List.forall₂_same]
      exact fun p _ => portrays_fields p
  · intro others hsame
    rw [ofBatches_eq, ofBatches_eq, hsame]

/-- An order whose name has a comma, quotes and the end of a line in it, for 10000.00, not verified
yet; the batches around it are empty. -/
theorem report_returns_of_quotes :
    let amount : Decimal := ⟨false, 1000000, 2, by decide, by decide⟩
    let p : Payment := { Payment.Sample.created amount with orderId := "a,\"b\"\r\nc" }
    let batches := [[], [p], []]
    batches.flatten ≠ [] ∧
      ofBatches batches =
        "payment_id,order_id,status,amount,refunded_amount,currency,pg_provider,pg_payment_id," ++
          "verified_at,refunded_at\n" ++
          ",\"a,\"\"b\"\"\r\nc\",PENDING,10000,0,KRW,TOSS,pg-1,,\n" ∧
      ∃ row, read (ofBatches batches) = some [columns, row] ∧ Portrays p row := by
  intro amount p batches
  have hsome : batches.flatten ≠ [] := List.cons_ne_nil _ _
  refine ⟨hsome, by decide +kernel, ?_⟩
  obtain ⟨rows, hread, hrows⟩ := (report_returns batches).2.1 hsome
  obtain ⟨row, rest, hrow, hrest, rfl⟩ := List.forall₂_cons_left_iff.1 hrows
  cases hrest
  exact ⟨row, hread, hrow⟩

end Payments.Report
