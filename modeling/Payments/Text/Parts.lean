/-!
# Payments.Text.Parts -- text cut at separators

A text is cut at every separator. The separators are dropped and the parts kept, empty ones too, so
there is always one part more than there are separators.
-/

namespace Payments.Text

/-- Cuts a text at every separator. -/
def parts (isSeparator : Char → Bool) : List Char → List (List Char)
  | [] => [[]]
  | c :: cs =>
    if isSeparator c then [] :: parts isSeparator cs
    else
      match parts isSeparator cs with
      | part :: rest => (c :: part) :: rest
      | [] => [[c]]

/-- The parts of a text, joined by one separator. -/
def join (separator : Char) (texts : List (List Char)) : List Char :=
  [separator].intercalate texts

theorem parts_ne_nil (isSeparator : Char → Bool) (cs : List Char) :
    parts isSeparator cs ≠ [] := by
  cases cs with
  | nil => simp [parts]
  | cons c cs =>
    rw [parts]
    split
    · simp
    · split <;> simp

end Payments.Text
