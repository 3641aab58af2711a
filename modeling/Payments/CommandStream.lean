import Payments.Command
import Payments.Error
import Payments.Text.Lines

/-!
# Payments.CommandStream -- commands, one a line

A stream of commands has one command on each line. Blank lines are passed over. A line that is no
command gives an error of its own, and the lines behind it are read as if it were not there.
-/

namespace Payments

/-- What stands on a line that is not blank. -/
structure StreamItem where
  /-- The number of the line, counted from one. -/
  line : Nat
  command : Except PaymentError Command

namespace CommandStream

/-- What stands on a line; nothing, if the line is blank. -/
def ofLine (bytes : List UInt8) : Option (Except PaymentError Command) :=
  match Text.ofUtf8? bytes with
  | none => some (.error (.inputOutput "stream did not contain valid UTF-8"))
  | some text =>
    if Text.isBlankText text then none
    else some ((Command.codec.parse text).mapError PaymentError.unreadable)

/-- The items of lines that are counted on from a number. -/
def ofLines (line : Nat) : List (List UInt8) → List StreamItem
  | [] => []
  | bytes :: rest =>
    match ofLine bytes with
    | some command => ⟨line, command⟩ :: ofLines (line + 1) rest
    | none => ofLines (line + 1) rest

/-- The items of a byte string. -/
def ofBytes (bytes : List UInt8) : List StreamItem :=
  ofLines 1 (Text.lines bytes)

end CommandStream

end Payments
