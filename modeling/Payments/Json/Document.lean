import Payments.Json.Token
import Payments.Text.Utf8

/-!
# Payments.Json.Document -- JSON text as a tree, broken or not

`Document.parse` turns the tokens of a text into a tree, and `Document.parseBytes` those of bytes
that perhaps spell no text. Like the tokens, the tree of a broken text ends where the text breaks: a
list or an object that was not closed properly is marked so, and nothing follows a broken place.
Reading such a tree from left to right meets the same first problem as reading the text from left to
right.
-/

namespace Payments.Json

/-- A JSON value as it stands in a text, up to the place where the text breaks, if it does. An
object keeps its entries in order, repeated keys included; a key is kept as a value, because a
broken text may have anything in its place. -/
inductive Document where
  | null
  | bool (b : Bool)
  | number (n : Numeral)
  | text (s : String)
  | garbled
  | list (items : List Document) (closed : Bool)
  | object (entries : List (Document × Document)) (closed : Bool)
  | broken

instance : Inhabited Document := ⟨.broken⟩

/-- Whether the value is written out to its end. -/
def Document.whole : Document → Bool
  | .list _ closed => closed
  | .object _ closed => closed
  | .broken => false
  | _ => true

mutual

/-- Reads one value: the value and the tokens behind it. -/
def readDocument : Nat → List Token → Document × List Token
  | 0, _ => (.broken, [])
  | _ + 1, .null :: rest => (.null, rest)
  | _ + 1, .bool b :: rest => (.bool b, rest)
  | _ + 1, .number n :: rest => (.number n, rest)
  | _ + 1, .text s :: rest => (.text s, rest)
  | _ + 1, .garbled :: rest => (.garbled, rest)
  | _ + 1, .openBracket :: .closeBracket :: rest => (.list [] true, rest)
  | fuel + 1, .openBracket :: rest =>
    let (items, closed, rest) := readItems fuel rest
    (.list items closed, rest)
  | _ + 1, .openBrace :: .closeBrace :: rest => (.object [] true, rest)
  | fuel + 1, .openBrace :: rest =>
    let (entries, closed, rest) := readEntries fuel rest
    (.object entries closed, rest)
  | _ + 1, _ => (.broken, [])

/-- Reads the items of a list: the items, whether the list was closed, and the tokens behind it. -/
def readItems : Nat → List Token → List Document × Bool × List Token
  | 0, _ => ([], false, [])
  | fuel + 1, ts =>
    match readDocument fuel ts with
    | (item, .comma :: rest) =>
      let (items, closed, rest) := readItems fuel rest
      (item :: items, closed, rest)
    | (item, .closeBracket :: rest) => ([item], true, rest)
    | (item, _) => ([item], false, [])

/-- Reads the entries of an object: the entries, whether it was closed, and the tokens behind it. -/
def readEntries : Nat → List Token → List (Document × Document) × Bool × List Token
  | 0, _ => ([], false, [])
  | fuel + 1, ts =>
    match readKey fuel ts with
    | (key, some rest) =>
      match readDocument fuel rest with
      | (value, .comma :: rest) =>
        let (entries, closed, rest) := readEntries fuel rest
        ((key, value) :: entries, closed, rest)
      | (value, .closeBrace :: rest) => ([(key, value)], true, rest)
      | (value, _) => ([(key, value)], false, [])
    | (key, none) => ([(key, .broken)], false, [])

/-- Reads what stands in a key's place: the tokens behind its colon, if it is a key with a colon. -/
def readKey : Nat → List Token → Document × Option (List Token)
  | 0, _ => (.broken, none)
  | _ + 1, .text s :: .colon :: rest => (.text s, some rest)
  | _ + 1, .garbled :: .colon :: rest => (.garbled, some rest)
  | fuel + 1, ts => ((readDocument fuel ts).1, none)

end

/-- The first value of some tokens, and whether anything follows it. Every call uses up a token or
stands directly before one that does, so the fuel does not run out. -/
def Document.ofTokens (ts : List Token) : Document × Bool :=
  let (d, rest) := readDocument (3 * ts.length + 3) ts
  (d, !rest.isEmpty)

/-- The first value of a text, and whether anything but blanks follows it. -/
def Document.parse (text : String) : Document × Bool :=
  ofTokens (tokens text.toList)

/-- The first value of bytes that need not spell a text, and whether anything but blanks follows it.
-/
def Document.parseBytes (bytes : List UInt8) : Document × Bool :=
  ofTokens (scanSpelled .between (Text.spelled bytes))

end Payments.Json
