import Payments.Number.Power

/-!
# Payments.HostName.Punycode -- labels in ASCII

A label with characters outside ASCII is sent as one without. Its ASCII characters come first, then
a hyphen, then for each other character, in the order of their code points, how far it is from the
one before. A distance counts the places in the label that are passed over on the way, once for each
code point in between. It is written in base 36 with the lowest digit first; a digit below the
threshold of its place is the last one. The thresholds adapt to the distances seen.

Thresholds are positive (`threshold_pos`), so each digit leaves a smaller distance to write, and
`length_readDistance` says that each distance read leaves less to read.
-/

namespace Payments.HostName.Punycode

/-! ## Digits -/

/-- The number of digits. -/
def base : Nat := 36

/-- The first code point outside ASCII. -/
def firstCodePoint : Nat := 128

/-- The bias at the beginning of a label. -/
def firstBias : Nat := 72

/-- The digit for a number below `base`. -/
def digit (n : Nat) : Char :=
  if n < 26 then Char.ofNat (97 + n) else Char.ofNat (22 + n)

/-- The value of a digit. -/
def value? (c : Char) : Option Nat :=
  if c.isLower then some (c.toNat - 97)
  else if c.isUpper then some (c.toNat - 65)
  else if c.isDigit then some (c.toNat - 22)
  else none

/-- The threshold of the place that is reached after `place` steps of `base`. -/
def threshold (bias place : Nat) : Nat :=
  if place ≤ bias then 1 else if bias + 26 ≤ place then 26 else place - bias

theorem threshold_pos (bias place : Nat) : 0 < threshold bias place := by
  unfold threshold
  repeat' split
  all_goals omega

/-- Divides a distance until it is small: what is left of it, and the steps of `base` taken. -/
def reduce (distance : Nat) : Nat × Nat :=
  if 455 < distance then
    let (rest, steps) := reduce (distance / 35)
    (rest, steps + base)
  else (distance, 0)
termination_by distance
decreasing_by omega

/-- The bias after a distance, where `count` characters of the label are known. -/
def adapt (distance count : Nat) (isFirst : Bool) : Nat :=
  let distance := if isFirst then distance / 700 else distance / 2
  let (rest, steps) := reduce (distance + distance / count)
  steps + base * rest / (rest + 38)

/-! ## Writing -/

/-- The digits of a distance from a place on. -/
def digits (bias place n : Nat) : List Char :=
  let t := threshold bias place
  if n < t then [digit n]
  else digit (t + (n - t) % (base - t)) :: digits bias (place + base) ((n - t) / (base - t))
termination_by n
decreasing_by
  have h := threshold_pos bias place
  exact Nat.lt_of_le_of_lt (Nat.div_le_self _ _) (by omega)

/-- What has been written of a label. -/
structure Progress where
  /-- The distance from the character written last. -/
  distance : Nat
  bias : Nat
  /-- The number of characters written. -/
  count : Nat
  digits : List Char

/-- Passes a character on the way to code point `n`, or writes it if that is its own. -/
def pass (asciiCount n : Nat) (p : Progress) (c : Char) : Progress :=
  if c.toNat < n then { p with distance := p.distance + 1 }
  else if c.toNat = n then
    { distance := 0
      bias := adapt p.distance (p.count + 1) (p.count = asciiCount)
      count := p.count + 1
      digits := p.digits ++ digits p.bias base p.distance }
  else p

/-- Writes the characters of a label that are the given code points, which are in order. All below
`n` have been written. -/
def writeFrom (label : List Char) (asciiCount n : Nat) (p : Progress) : List Nat → Progress
  | [] => p
  | m :: ms =>
    let p := { p with distance := p.distance + (m - n) * (p.count + 1) }
    let p := label.foldl (pass asciiCount m) p
    writeFrom label asciiCount (m + 1) { p with distance := p.distance + 1 } ms

/-- Puts a number in its place in a list in order that has every number once. -/
def insert (n : Nat) : List Nat → List Nat
  | [] => [n]
  | m :: ms => if n < m then n :: m :: ms else if n = m then m :: ms else m :: insert n ms

/-- The code points outside ASCII of a label, in order. -/
def codePoints (label : List Char) : List Nat :=
  ((label.map Char.toNat).filter (firstCodePoint ≤ ·)).foldr insert []

/-- A label without characters outside ASCII. -/
def encode (label : List Char) : List Char :=
  let ascii := label.filter fun c => c.toNat < firstCodePoint
  let p := writeFrom label ascii.length firstCodePoint ⟨0, firstBias, ascii.length, []⟩
    (codePoints label)
  ascii ++ (if ascii.isEmpty then [] else ['-']) ++ p.digits

/-! ## Reading -/

/-- The first number that is too large for a distance. -/
def distanceBound : Nat := twoTo 32

/-- Reads a distance from a place on, where a unit counts `weight`, and adds it to `n`: the sum and
what follows. -/
def readDistance (bias place weight n : Nat) : List Char → Option (Nat × List Char)
  | [] => none
  | c :: cs => do
    let d ← value? c
    let n := n + d * weight
    let t := threshold bias place
    if distanceBound ≤ n then none
    else if d < t then some (n, cs)
    else if distanceBound ≤ weight * (base - t) then none
    else readDistance bias (place + base) (weight * (base - t)) n cs

/-- Reading a distance takes at least one character. -/
theorem length_readDistance {cs : List Char} {bias place weight n : Nat} {r : Nat × List Char}
    (h : readDistance bias place weight n cs = some r) : r.2.length < cs.length := by
  induction cs generalizing place weight n with
  | nil => cases h
  | cons c cs ih =>
    simp only [readDistance, Option.bind_eq_bind, Option.bind_eq_some_iff] at h
    obtain ⟨d, -, h⟩ := h
    split at h
    · cases h
    · split at h
      · cases h
        simp
      · split at h
        · cases h
        · exact Nat.lt_succ_of_lt (ih h)

/-- Reads the characters outside ASCII into a label. The one read last has the code point `n` and
stands in front of `place`. -/
def readInto (bias n place : Nat) (label : List Char) (cs : List Char) : Option (List Char) :=
  if cs.isEmpty then some label
  else
    match h : readDistance bias base 1 place cs with
    | none => none
    | some (sum, rest) =>
      have _shorter := length_readDistance h
      let count := label.length + 1
      let m := n + sum / count
      if m < 0xD800 || (0xE000 ≤ m && m < 0x110000) then
        readInto (adapt (sum - place) count (place = 0)) m (sum % count + 1)
          (label.insertIdx (sum % count) (Char.ofNat m)) rest
      else none
termination_by cs.length
decreasing_by exact _shorter

/-- The label that a text in ASCII stands for. What is in front of the last hyphen is taken over;
a hyphen with nothing in front of it is no such hyphen. -/
def decode? (cs : List Char) : Option (List Char) :=
  let digits := (cs.reverse.takeWhile (· ≠ '-')).reverse
  let ascii := (cs.take (cs.length - digits.length)).dropLast
  readInto firstBias firstCodePoint 0 ascii (if ascii.isEmpty then cs else digits)

end Payments.HostName.Punycode
