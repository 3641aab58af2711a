import Payments.Payment

/-!
# Payments.Report -- payments as comma-separated values

A report has a header and one row of ten fields per payment. A field that holds a comma, a quote or
the end of a line stands in quotes, and a quote inside it is written twice. Rows end with a line
feed. The header is written together with the first row, so a report without payments is empty, and
it makes no difference in how many batches the payments are handed over.
-/

namespace Payments.Report

/-- The names of the ten columns. -/
def columns : List String :=
  ["payment_id", "order_id", "status", "amount", "refunded_amount", "currency", "pg_provider",
    "pg_payment_id", "verified_at", "refunded_at"]

/-- The fields of a payment. Amounts are written at their least scale, times to the second, and what
is missing is an empty field. -/
def fields (p : Payment) : List String :=
  [p.idText, p.orderId, p.status.name, p.ledger.amount.normalize.toText,
    p.ledger.refunded.normalize.toText, p.ledger.currency, p.reference.provider,
    p.reference.paymentId, (p.verifiedAt.map Instant.toTextSeconds).getD "",
    (p.refundedAt.map Instant.toTextSeconds).getD ""]

/-- Whether a character may stand in a field without quotes. -/
def isPlain (c : Char) : Bool :=
  c != ',' && c != '"' && c != '\n' && c != '\r'

/-- The characters of a field inside its quotes: every quote twice. -/
def doubleQuotes : List Char → List Char
  | [] => []
  | c :: cs => if c = '"' then '"' :: '"' :: doubleQuotes cs else c :: doubleQuotes cs

/-- A field as it is written. -/
def fieldChars (field : String) : List Char :=
  if field.toList.all isPlain then field.toList
  else '"' :: doubleQuotes field.toList ++ ['"']

/-- Fields with commas between them. -/
def joinFields : List String → List Char
  | [] => []
  | [f] => fieldChars f
  | f :: rest => fieldChars f ++ ',' :: joinFields rest

/-- A row as it is written. -/
def rowChars (row : List String) : List Char :=
  joinFields row ++ ['\n']

/-- How far a report has come: whether its header has been written. -/
structure Progress where
  started : Bool
deriving DecidableEq, Repr

/-- Nothing written yet. -/
def Progress.start : Progress :=
  ⟨false⟩

/-- Writes a batch of payments: the text, and how far the report has come. -/
def Progress.write (progress : Progress) (batch : List Payment) : String × Progress :=
  if batch.isEmpty then ("", progress)
  else
    let header := if progress.started then [] else rowChars columns
    (String.ofList (header ++ batch.flatMap fun p => rowChars (fields p)), ⟨true⟩)

/-- The text of batches that are written one after another. -/
def writeAll (progress : Progress) : List (List Payment) → String
  | [] => ""
  | batch :: rest =>
    let (text, progress) := progress.write batch
    text ++ writeAll progress rest

/-- The report of a list of batches. -/
def ofBatches (batches : List (List Payment)) : String :=
  writeAll .start batches

end Payments.Report
