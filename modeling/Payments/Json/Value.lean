import Payments.Json.Document
import Payments.Json.Fault
import Payments.Json.Number

/-!
# Payments.Json.Value -- JSON values and their text

A value is written compactly: no blanks, entries in the order they stand in, and in strings only
the quote, the backslash and control characters are escaped. `Value.ofDocument` reads any value at
all from a document, with the entries of every object in the order of their keys and the last of
several equal keys winning.
-/

namespace Payments.Json

/-- A JSON value. -/
inductive Value where
  | null
  | bool (b : Bool)
  | number (n : Number)
  | text (s : String)
  | list (items : List Value)
  | object (entries : List (String × Value))

instance : Inhabited Value := ⟨.null⟩

/-! ## Writing -/

/-- A character as it stands in a string. -/
def escapeChar (c : Char) : List Char :=
  if c = '"' then ['\\', '"']
  else if c = '\\' then ['\\', '\\']
  else if c = '\x08' then ['\\', 'b']
  else if c = '\x0c' then ['\\', 'f']
  else if c = '\n' then ['\\', 'n']
  else if c = '\r' then ['\\', 'r']
  else if c = '\t' then ['\\', 't']
  else if c.toNat < 0x20 then
    ['\\', 'u', '0', '0', Text.hexDigit (c.toNat / 16), Text.hexDigit (c.toNat % 16)]
  else [c]

/-- A string with its quotes. -/
def quoteChars (s : String) : List Char :=
  '"' :: s.toList.flatMap escapeChar ++ ['"']

mutual

/-- The characters of a value. -/
def Value.chars : Value → List Char
  | .null => ['n', 'u', 'l', 'l']
  | .bool true => ['t', 'r', 'u', 'e']
  | .bool false => ['f', 'a', 'l', 's', 'e']
  | .number n => n.chars
  | .text s => quoteChars s
  | .list items => '[' :: itemChars items ++ [']']
  | .object entries => '\x7b' :: entryChars entries ++ ['\x7d']

/-- The characters of the items of a list. -/
def itemChars : List Value → List Char
  | [] => []
  | [v] => v.chars
  | v :: rest => v.chars ++ ',' :: itemChars rest

/-- The characters of the entries of an object. -/
def entryChars : List (String × Value) → List Char
  | [] => []
  | [(k, v)] => quoteChars k ++ ':' :: v.chars
  | (k, v) :: rest => quoteChars k ++ ':' :: v.chars ++ ',' :: entryChars rest

end

/-- The text of a value. -/
def Value.render (v : Value) : String :=
  String.ofList v.chars

/-! ## Reading any value -/

/-- Puts an entry among entries that are in the order of their keys, in place of one with its key.
-/
def putEntry {α : Type} (key : String) (value : α) : List (String × α) → List (String × α)
  | [] => [(key, value)]
  | (k, v) :: rest =>
    if key < k then (key, value) :: (k, v) :: rest
    else if key = k then (key, value) :: rest
    else (k, v) :: putEntry key value rest

/-- An object with its entries in the order of their keys; of equal keys the last one counts. -/
def Value.sortedObject (entries : List (String × Value)) : Value :=
  .object (entries.foldl (fun acc (k, v) => putEntry k v acc) [])

/-- Reads a value of any kind that is nested at most `depth` deep. -/
def Value.ofDocument : Nat → Document → Except Fault Value
  | _, .null => .ok .null
  | _, .bool b => .ok (.bool b)
  | _, .text s => .ok (.text s)
  | _, .number n =>
    match n.value? with
    | some v => .ok (.number v)
    | none => .error .malformed
  | depth + 1, .list items true => do
    .ok (.list (← items.mapM (Value.ofDocument depth)))
  | depth + 1, .object entries true => do
    let read ← entries.mapM fun (key, value) =>
      match key with
      | .text k => (Value.ofDocument depth value).map (k, ·)
      | _ => .error .malformed
    .ok (.sortedObject read)
  | _, _ => .error .malformed

end Payments.Json
