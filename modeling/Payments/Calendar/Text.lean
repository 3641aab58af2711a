import Payments.Calendar.Instant
import Payments.Number.Power
import Payments.Text.Blank

/-!
# Payments.Calendar.Text -- instants and local times as text

Times are written as in RFC 3339, in universal time: `2024-01-01T10:00:00.500Z`. The fraction has
three, six or nine digits, as few as show it, or is left out when it is zero. Years outside 0 to
9999 carry a sign.

Reading is more generous. Numbers may be short and may have blanks in front, the date may be parted
from the time by `T`, `t` or a space, the fraction may have any number of digits of which nine
count, and the offset may be `Z`, `UTC` in any case, or a sign with hours and minutes. A local time
is read in the same way, with `T` only and with no offset.
-/

namespace Payments

namespace Calendar

/-! ## Writing -/

/-- A number with zeros in front up to `width` digits. -/
def padded (width n : Nat) : List Char :=
  let ds := Nat.toDigits 10 n
  List.replicate (width - ds.length) '0' ++ ds

/-- A year: four digits from 0 to 9999, otherwise a sign and at least four digits. -/
def yearChars (y : Int) : List Char :=
  (if y < 0 then ['-'] else if 9999 < y then ['+'] else []) ++ padded 4 y.natAbs

/-- A date. -/
def dateChars (d : Date) : List Char :=
  yearChars d.year ++ '-' :: padded 2 d.month ++ '-' :: padded 2 d.day

/-- A time of day to the second. The second of a leap second is 60. -/
def timeChars (second nano : Nat) : List Char :=
  let leap := if nano < 1000000000 then 0 else 1
  padded 2 (second / 3600) ++ ':' :: padded 2 (second / 60 % 60) ++ ':' ::
    padded 2 (second % 60 + leap)

/-- The fraction of a second in as few of three, six or nine digits as show it. -/
def fractionChars (nano : Nat) : List Char :=
  let n := nano % 1000000000
  if n = 0 then []
  else if n % 1000000 = 0 then '.' :: padded 3 (n / 1000000)
  else if n % 1000 = 0 then '.' :: padded 6 (n / 1000)
  else '.' :: padded 9 n

/-! ## Reading -/

/-- Takes at least one and at most `width` digits off the front. -/
def number? (width : Nat) (cs : List Char) : Option (Nat × List Char) :=
  let ds := (cs.take width).takeWhile Char.isDigit
  if ds.isEmpty then none else some (Nat.ofDigitChars 10 ds 0, cs.drop ds.length)

/-- Takes blanks and then a number off the front. -/
def field? (width : Nat) (cs : List Char) : Option (Nat × List Char) :=
  number? width (Text.trimStart cs)

/-- Takes a year off the front: four digits at most, or a sign and any number of digits. -/
def year? (cs : List Char) : Option (Int × List Char) :=
  match Text.trimStart cs with
  | '-' :: rest => (number? rest.length rest).map fun (n, rest) => (-(n : Int), rest)
  | '+' :: rest => (number? rest.length rest).map fun (n, rest) => ((n : Int), rest)
  | rest => (number? 4 rest).map fun (n, rest) => ((n : Int), rest)

/-- Takes blanks and then a given character off the front. -/
def mark? (c : Char) (cs : List Char) : Option (List Char) :=
  match Text.trimStart cs with
  | d :: rest => if d = c then some rest else none
  | [] => none

/-- Takes a date off the front. -/
def date? (cs : List Char) : Option (Date × List Char) := do
  let (year, cs) ← year? cs
  let cs ← mark? '-' cs
  let (month, cs) ← field? 2 cs
  let cs ← mark? '-' cs
  let (day, cs) ← field? 2 cs
  let date ← Date.of? year month day
  some (date, cs)

/-- Takes a fraction of a second off the front, if there is one. -/
def fraction? : List Char → Option (Nat × List Char)
  | '.' :: cs => do
    let (n, rest) ← number? 9 cs
    let places := cs.length - rest.length
    some (n * tenTo (9 - places), rest.dropWhile Char.isDigit)
  | cs => some (0, cs)

/-- Takes a time of day off the front: the second of the day and the fraction in nanoseconds. -/
def time? (cs : List Char) : Option (Nat × Nat × List Char) := do
  let (hour, cs) ← field? 2 cs
  let cs ← mark? ':' cs
  let (minute, cs) ← field? 2 cs
  let cs ← mark? ':' cs
  let (second, cs) ← field? 2 cs
  let (nano, cs) ← fraction? cs
  if hour < 24 ∧ minute < 60 ∧ second ≤ 60 then
    let ofDay := hour * 3600 + minute * 60
    if second = 60 then some (ofDay + 59, nano + 1000000000, cs)
    else some (ofDay + second, nano, cs)
  else none

/-- Two digits with a bound on the first. -/
def twoDigits? (greatest : Char) (a b : Char) : Option Nat :=
  if a.isDigit ∧ a ≤ greatest ∧ b.isDigit then some (Nat.ofDigitChars 10 [a, b] 0) else none

/-- Takes a signed offset off the front, in seconds: two digits of hours, colons and blanks, two
digits of minutes. -/
def signedOffset? (sign : Int) : List Char → Option (Int × List Char)
  | h1 :: h2 :: cs => do
    let hours ← twoDigits? '9' h1 h2
    match cs.dropWhile (fun c => c = ':' || Text.isBlank c) with
    | m1 :: m2 :: cs => do
      let minutes ← twoDigits? '5' m1 m2
      some (sign * (hours * 3600 + minutes * 60), cs)
    | _ => none
  | _ => none

/-- Takes the letters `UTC` off the front, in upper or lower case. -/
def utc? (cs : List Char) : Option (List Char) :=
  if (cs.take 3).map Char.toUpper = ['U', 'T', 'C'] then some (cs.drop 3) else none

/-- Takes an offset off the front, in seconds ahead of universal time. -/
def offset? (cs : List Char) : Option (Int × List Char) :=
  match utc? cs, cs with
  | some rest, _ => some (0, rest)
  | none, 'Z' :: rest => some (0, rest)
  | none, 'z' :: rest => some (0, rest)
  | none, '+' :: rest => signedOffset? 1 rest
  | none, '-' :: rest => signedOffset? (-1) rest
  | none, '\u2212' :: rest => signedOffset? (-1) rest
  | none, _ => none

end Calendar

open Calendar

namespace Instant

/-- The instant as text. -/
def toText (t : Instant) : String :=
  String.ofList
    (dateChars t.date ++ 'T' :: timeChars t.second t.nano ++ fractionChars t.nano ++ ['Z'])

/-- The instant as text to the second; the fraction is left out. -/
def toTextSeconds (t : Instant) : String :=
  String.ofList (dateChars t.date ++ 'T' :: timeChars t.second t.nano ++ ['Z'])

/-- Reads an instant. -/
def ofText? (s : String) : Option Instant := do
  let (date, cs) ← date? s.toList
  let cs ← match cs with
    | 'T' :: cs => some cs
    | 't' :: cs => some cs
    | ' ' :: cs => some cs
    | _ => none
  let (second, nano, cs) ← time? cs
  let (offset, cs) ← offset? (Text.trimStart cs)
  if (Text.trimStart cs).isEmpty ∧ offset.natAbs < 86400 then ofLocal? date second nano offset
  else none

end Instant

namespace LocalTime

/-- The local time as text. -/
def toText (t : LocalTime) : String :=
  String.ofList (dateChars t.date ++ 'T' :: timeChars t.second t.nano ++ fractionChars t.nano)

/-- Reads a local time. -/
def ofText? (s : String) : Option LocalTime := do
  let (date, cs) ← date? s.toList
  let cs ← mark? 'T' cs
  let (second, nano, cs) ← time? cs
  if (Text.trimStart cs).isEmpty then of? date second nano else none

end LocalTime

end Payments
