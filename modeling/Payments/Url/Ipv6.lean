import Payments.Text.Hex
import Payments.Text.Parts

/-!
# Payments.Url.Ipv6 -- numeric hosts of eight pieces

An address has eight pieces of two bytes, written in hexadecimal digits with colons between them.
Two colons stand for as many zero pieces as are missing, once and for one at least. The last two
pieces may be written as four decimal bytes with points between them. As text an address has no such
bytes, and the two colons stand for the first of its longest runs of zero pieces.
-/

namespace Payments.Url.Ipv6

/-- The number of pieces. -/
def pieceCount : Nat := 8

/-! ## Reading -/

/-- A decimal byte without zeros in front. -/
def byte? (cs : List Char) : Option Nat :=
  let n := Nat.ofDigitChars 10 cs 0
  if cs.isEmpty || !cs.all Char.isDigit || (cs.head? = some '0' && 1 < cs.length) || 255 < n then
    none
  else some n

/-- The pieces that stand between two colons: one, or two as four decimal bytes. -/
def pieces? (cs : List Char) : Option (List Nat) :=
  if cs.contains '.' then do
    match ← (Text.parts (· = '.') cs).mapM byte? with
    | [a, b, c, d] => some [a * 256 + b, c * 256 + d]
    | _ => none
  else if cs.isEmpty || 4 < cs.length || !cs.all fun c => (Text.hexValue? c).isSome then none
  else some [Text.hexNumber cs]

/-- The pieces of an address, or of a part of it, with colons between them; only the last may be
decimal bytes. -/
def run? (parts : List (List Char)) : Option (List Nat) :=
  if parts.dropLast.any (·.contains '.') then none
  else List.flatten <$> parts.mapM pieces?

/-- What is in front of the first two colons in a row, and what is behind them. -/
def cutAtGap : List Char → List Char × Option (List Char)
  | ':' :: ':' :: cs => ([], some cs)
  | c :: cs =>
    let (front, back) := cutAtGap cs
    (c :: front, back)
  | [] => ([], none)

/-- The pieces of a part of an address beside the two colons, which may have none. -/
def side? (cs : List Char) : Option (List Nat) :=
  if cs.isEmpty then some [] else run? (Text.parts (· = ':') cs)

/-- The pieces of an address. -/
def read? (cs : List Char) : Option (List Nat) :=
  match cutAtGap cs with
  | (_, none) => do
    let pieces ← run? (Text.parts (· = ':') cs)
    if pieces.length = pieceCount then some pieces else none
  | (front, some back) =>
    if front.contains '.' then none
    else do
      let before ← side? front
      let after ← side? back
      let missing := pieceCount - (before.length + after.length)
      if missing = 0 then none else some (before ++ List.replicate missing 0 ++ after)

/-! ## Writing -/

/-- A piece in as few digits as it takes. -/
def pieceText (n : Nat) : List Char :=
  match (Text.hexDigits 4 n).dropWhile (· = '0') with
  | [] => ['0']
  | ds => ds

/-- The number of zero pieces in a row at the beginning. -/
def zeros (pieces : List Nat) : Nat :=
  (pieces.takeWhile (· = 0)).length

/-- The place and the length of the first of the longest runs of zeros. -/
def longestRun : List Nat → Nat × Nat
  | [] => (0, 0)
  | n :: ns =>
    let (place, length) := longestRun ns
    if length ≤ zeros (n :: ns) then (0, zeros (n :: ns)) else (place + 1, length)

/-- Pieces with colons between them. -/
def colons (pieces : List Nat) : List Char :=
  Text.join ':' (pieces.map pieceText)

/-- An address as text. -/
def text (pieces : List Nat) : String :=
  let (place, length) := longestRun pieces
  String.ofList <|
    if length < 2 then colons pieces
    else colons (pieces.take place) ++ [':', ':'] ++ colons (pieces.drop (place + length))

end Payments.Url.Ipv6
