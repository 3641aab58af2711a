import Payments.Text.Hex

/-!
# Payments.Json.Token -- the tokens of a JSON text

`tokens` cuts a text into the tokens of JSON. It never fails as a whole: where the text stops being
JSON the list ends with `Token.broken`, and everything before that point is still there. A reader
that meets a wrong value first can therefore report it although the text is broken further on.

The cutting is a machine that takes one character at a time. Three things that are legal in a value
nobody looks at, but not in one that is read, are kept apart instead of being refused here: a string
with an escape for half a surrogate pair is `Token.garbled`, so is one with a byte that is no part
of a character, and a number keeps its digits, so that its size is judged when it is used.
-/

namespace Payments.Json

/-- A number as it is spelled. -/
structure Numeral where
  negative : Bool
  whole : List Char
  fraction : List Char
  exponent : Option (Bool × List Char)
deriving DecidableEq, Repr

/-- A token. `broken` stands for a place at which the text is not JSON. -/
inductive Token where
  | openBrace
  | closeBrace
  | openBracket
  | closeBracket
  | comma
  | colon
  | null
  | bool (b : Bool)
  | number (n : Numeral)
  | text (s : String)
  | garbled
  | broken
deriving DecidableEq, Repr

/-! ## Strings -/

/-- The part of a string read so far: its characters, latest first, half a surrogate pair that waits
for the other half, and whether every half has found its partner. -/
structure Spelling where
  chars : List Char
  waiting : Option Nat
  sound : Bool
deriving DecidableEq, Repr

namespace Spelling

/-- Nothing read yet. -/
def empty : Spelling := ⟨[], none, true⟩

/-- One more character, which leaves a waiting half alone for good. -/
def push (s : Spelling) (c : Char) : Spelling :=
  ⟨c :: s.chars, none, s.sound && s.waiting.isNone⟩

/-- One more sixteen-bit unit from an escape. -/
def pushUnit (s : Spelling) (u : Nat) : Spelling :=
  let isHigh := 0xD800 ≤ u && u < 0xDC00
  let isLow := 0xDC00 ≤ u && u < 0xE000
  match s.waiting with
  | some high =>
    if isLow then
      ⟨Char.ofNat (0x10000 + (high - 0xD800) * 0x400 + (u - 0xDC00)) :: s.chars, none, s.sound⟩
    else ⟨s.chars, none, false⟩
  | none =>
    if isHigh then { s with waiting := some u }
    else if isLow then { s with sound := false }
    else ⟨Char.ofNat u :: s.chars, none, s.sound⟩

/-- The token of the string that ends here. -/
def token (s : Spelling) : Token :=
  if s.sound && s.waiting.isNone then .text (String.ofList s.chars.reverse) else .garbled

end Spelling

/-- The character that a short escape stands for. -/
def shortEscape? : Char → Option Char
  | '"' => some '"'
  | '\\' => some '\\'
  | '/' => some '/'
  | 'b' => some '\x08'
  | 'f' => some '\x0c'
  | 'n' => some '\n'
  | 'r' => some '\r'
  | 't' => some '\t'
  | _ => none

/-! ## The machine -/

/-- How far a number has been read. In `zero`, `whole`, `fraction` and `exponent` it may end. -/
inductive Stage where
  | sign
  | zero
  | whole
  | point
  | fraction
  | exponentMark
  | exponentSign
  | exponent
deriving DecidableEq, Repr

/-- Whether a number may end at this stage. -/
def Stage.complete : Stage → Bool
  | .zero | .whole | .fraction | .exponent => true
  | _ => false

/-- What a character does to a number: goes on with it, spoils it, or stands outside it. -/
inductive Advance where
  | next (stage : Stage) (n : Numeral)
  | spoiled
  | outside

/-- The number with one more digit in its whole part. -/
def Numeral.addWhole (n : Numeral) (c : Char) : Numeral :=
  { n with whole := n.whole ++ [c] }

/-- The number with one more digit in its fraction. -/
def Numeral.addFraction (n : Numeral) (c : Char) : Numeral :=
  { n with fraction := n.fraction ++ [c] }

/-- The number with one more digit in its exponent. -/
def Numeral.addExponent (n : Numeral) (c : Char) : Numeral :=
  { n with exponent := n.exponent.map fun (neg, ds) => (neg, ds ++ [c]) }

/-- What comes after the digits of a whole number or a fraction. -/
def Numeral.tail (pointed : Bool) (stage : Stage) (n : Numeral) (c : Char) : Advance :=
  if c = '.' && !pointed then .next .point n
  else if c = 'e' || c = 'E' then .next .exponentMark { n with exponent := some (false, []) }
  else if stage.complete then .outside
  else .spoiled

/-- One character of a number. -/
def Numeral.advance (n : Numeral) (stage : Stage) (c : Char) : Advance :=
  match stage with
  | .sign =>
    if c = '0' then .next .zero (n.addWhole c)
    else if c.isDigit then .next .whole (n.addWhole c)
    else .spoiled
  | .zero => if c.isDigit then .spoiled else n.tail false .zero c
  | .whole => if c.isDigit then .next .whole (n.addWhole c) else n.tail false .whole c
  | .point => if c.isDigit then .next .fraction (n.addFraction c) else .spoiled
  | .fraction => if c.isDigit then .next .fraction (n.addFraction c) else n.tail true .fraction c
  | .exponentMark =>
    if c = '+' then .next .exponentSign n
    else if c = '-' then .next .exponentSign { n with exponent := some (true, []) }
    else if c.isDigit then .next .exponent (n.addExponent c)
    else .spoiled
  | .exponentSign => if c.isDigit then .next .exponent (n.addExponent c) else .spoiled
  | .exponent => if c.isDigit then .next .exponent (n.addExponent c) else .outside

/-- What the machine is in the middle of. -/
inductive Mode where
  | between
  | word (left : List Char) (token : Token)
  | number (stage : Stage) (n : Numeral)
  | text (s : Spelling)
  | escape (s : Spelling)
  | unit (s : Spelling) (left value : Nat)
  | dead

/-- What the machine gives out when the text ends here. -/
def Mode.finish : Mode → List Token
  | .between => []
  | .number stage n => if stage.complete then [.number n] else [.broken]
  | .dead => []
  | _ => [.broken]

/-- The first character of a token. -/
def start (c : Char) : List Token × Mode :=
  if c = ' ' || c = '\n' || c = '\t' || c = '\r' then ([], .between)
  else if c = '\x7b' then ([.openBrace], .between)
  else if c = '\x7d' then ([.closeBrace], .between)
  else if c = '[' then ([.openBracket], .between)
  else if c = ']' then ([.closeBracket], .between)
  else if c = ',' then ([.comma], .between)
  else if c = ':' then ([.colon], .between)
  else if c = '"' then ([], .text .empty)
  else if c = 'n' then ([], .word ['u', 'l', 'l'] .null)
  else if c = 't' then ([], .word ['r', 'u', 'e'] (.bool true))
  else if c = 'f' then ([], .word ['a', 'l', 's', 'e'] (.bool false))
  else if c = '-' then ([], .number .sign ⟨true, [], [], none⟩)
  else if c = '0' then ([], .number .zero ⟨false, [c], [], none⟩)
  else if c.isDigit then ([], .number .whole ⟨false, [c], [], none⟩)
  else ([.broken], .dead)

/-- One character: the tokens that it completes and what comes next. -/
def Mode.step : Mode → Char → List Token × Mode
  | .between, c => start c
  | .word left token, c =>
    match left with
    | [] => ([.broken], .dead)
    | [d] => if c = d then ([token], .between) else ([.broken], .dead)
    | d :: rest => if c = d then ([], .word rest token) else ([.broken], .dead)
  | .number stage n, c =>
    match n.advance stage c with
    | .next stage n => ([], .number stage n)
    | .spoiled => ([.broken], .dead)
    | .outside =>
      let (out, mode) := start c
      (.number n :: out, mode)
  | .text s, c =>
    if c = '"' then ([s.token], .between)
    else if c = '\\' then ([], .escape s)
    else if c.toNat < 0x20 then ([.broken], .dead)
    else ([], .text (s.push c))
  | .escape s, c =>
    if c = 'u' then ([], .unit s 4 0)
    else match shortEscape? c with
      | some d => ([], .text (s.push d))
      | none => ([.broken], .dead)
  | .unit s left value, c =>
    match Text.hexValue? c with
    | none => ([.broken], .dead)
    | some d =>
      let value := value * 16 + d
      if left ≤ 1 then ([], .text (s.pushUnit value)) else ([], .unit s (left - 1) value)
  | .dead, _ => ([], .dead)

/-- The tokens of a text that is read on from a mode. -/
def scan : Mode → List Char → List Token
  | mode, [] => mode.finish
  | mode, c :: cs =>
    let (out, mode) := mode.step c
    out ++ scan mode cs

/-- The tokens of a text. -/
def tokens (cs : List Char) : List Token :=
  scan .between cs

/-- A byte that is no part of a character, as in bytes that spell no text. -/
def Mode.stray : Mode → List Token × Mode
  | .number stage n => (if stage.complete then [.number n, .broken] else [.broken], .dead)
  | .text s => ([], .text { s with sound := false })
  | .dead => ([], .dead)
  | _ => ([.broken], .dead)

/-- The tokens of what bytes spell, where each byte that is no part of a character leaves a gap. -/
def scanSpelled : Mode → List (Option Char) → List Token
  | mode, [] => mode.finish
  | mode, some c :: cs =>
    let (out, mode) := mode.step c
    out ++ scanSpelled mode cs
  | mode, none :: cs =>
    let (out, mode) := mode.stray
    out ++ scanSpelled mode cs

end Payments.Json
