import Payments.Text.Utf8

/-!
# Payments.Text.Lines -- the lines of a byte string

A line ends with a line feed, or with a carriage return and a line feed; neither belongs to the
line. What stands behind the last line feed is a line too, unless it is empty, and keeps all its
bytes.
-/

namespace Payments.Text

/-- Drops a carriage return from the end of a line. The line is given backwards. -/
def dropReturn : List UInt8 → List UInt8
  | 13 :: bytes => bytes
  | bytes => bytes

/-- The lines of a byte string that goes on from a line begun; what has been read of that line is
given backwards. -/
def linesFrom : List UInt8 → List UInt8 → List (List UInt8)
  | begun, [] => if begun.isEmpty then [] else [begun.reverse]
  | begun, b :: bytes =>
    if b = 10 then (dropReturn begun).reverse :: linesFrom [] bytes
    else linesFrom (b :: begun) bytes

/-- The lines of a byte string. -/
def lines (bytes : List UInt8) : List (List UInt8) :=
  linesFrom [] bytes

end Payments.Text
