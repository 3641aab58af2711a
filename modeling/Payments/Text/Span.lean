import Payments.Text.Hex
import Payments.Text.Parts

/-!
# Payments.Text.Span -- sets of characters as spans of code points

A property of characters that follows no rule is given by a table. A table is a list of lines, a
line holds words with blanks between them, and a word is a code point in hexadecimal digits, or two
of them with a hyphen for all code points from the first to the last.
-/

namespace Payments.Text

/-- The code points from `first` to `last`. -/
structure Span where
  first : Nat
  last : Nat
deriving DecidableEq, Repr

namespace Span

/-- Whether the span holds a character. -/
def holds (s : Span) (c : Char) : Bool :=
  s.first ≤ c.toNat && c.toNat ≤ s.last

/-- The span that a word of a table stands for. -/
def ofWord (word : List Char) : Span :=
  let numbers := (parts (· = '-') word).map hexNumber
  let first := numbers.headD 0
  ⟨first, numbers.getLast?.getD first⟩

end Span

/-- The words on the lines of a table. -/
def words (lines : List String) : List (List Char) :=
  lines.flatMap fun line => parts (· = ' ') line.toList

/-- The spans that a table lists. -/
def spans (lines : List String) : List Span :=
  (words lines).map Span.ofWord

/-- Whether one of the spans holds a character. -/
def isIn (spans : List Span) (c : Char) : Bool :=
  spans.any (·.holds c)

end Payments.Text
