import Payments.Json.Value

/-!
# Payments.Json.Codec -- types that are written to JSON and read back

A `Codec` writes a type as a JSON value and reads it from a document. The codec of a record is put
together from its fields, so the writing and the reading of a field stand side by side:

- a record is written as an object with its fields in the order given;
- it is read from an object with its fields in any order, or from a list with its fields in order;
- in an object, a field given twice is refused where its second key stands, fields that nobody asks
  for are skipped, and fields that are absent are noticed at the end, in the order of the record.
-/

namespace Payments.Json

/-- How a type is written to JSON and read from it. -/
structure Codec (α : Type) where
  write : α → Value
  read : Document → Except Fault α

/-- Why a document is no value of the kind asked for: it may not be a value at all. -/
def Document.refusal : Document → Fault
  | .broken | .garbled => .malformed
  | .number n => if n.value?.isSome then .mismatch else .malformed
  | _ => .mismatch

namespace Codec

/-- The compact text of a value. -/
def render {α : Type} (c : Codec α) (a : α) : String :=
  (c.write a).render

/-- Reads a tree that something may follow, which is not read. -/
def readWhole {α : Type} (c : Codec α) : Document × Bool → Except Fault α
  | (document, trailing) => do
    let a ← c.read document
    if trailing then .error .malformed else .ok a

/-- Reads a whole text: one value with nothing but blanks around it. -/
def parse {α : Type} (c : Codec α) (text : String) : Except Fault α :=
  c.readWhole (Document.parse text)

/-- Reads bytes as a whole. Bytes that spell no text are read too, as long as what is wrong with
them stands in strings that nobody looks at. -/
def parseBytes {α : Type} (c : Codec α) (bytes : List UInt8) : Except Fault α :=
  c.readWhole (Document.parseBytes bytes)

/-! ## Values of one token -/

/-- Text. -/
def text : Codec String where
  write := .text
  read
    | .text s => .ok s
    | d => .error d.refusal

/-- A truth value. -/
def flag : Codec Bool where
  write := .bool
  read
    | .bool b => .ok b
    | d => .error d.refusal

/-- A whole number that is not negative. -/
def count : Codec Nat where
  write n := .number (.int n)
  read
    | .number n =>
      match n.value? with
      | some (.int i) => if 0 ≤ i then .ok i.toNat else .error .mismatch
      | some (.double _ _) => .error .mismatch
      | none => .error .malformed
    | d => .error d.refusal

/-- A value of any kind, nested at most `depth` deep. -/
def any (depth : Nat) : Codec Value where
  write := id
  read := Value.ofDocument depth

/-! ## Values made of other values -/

/-- A value or `null`. -/
def optional {α : Type} (c : Codec α) : Codec (Option α) where
  write
    | none => .null
    | some a => c.write a
  read
    | .null => .ok none
    | d => (c.read d).map some

/-- A list of values. -/
def list {α : Type} (c : Codec α) : Codec (List α) where
  write as := .list (as.map c.write)
  read
    | .list items closed => do
      let as ← items.mapM c.read
      if closed then .ok as else .error .malformed
    | d => .error d.refusal

/-- A type that is written as another one, and read from those values of it that are accepted. -/
def refine {α β : Type} (c : Codec α) (write : β → α) (accept : α → Except Fault β) : Codec β where
  write b := c.write (write b)
  read d := c.read d >>= accept

/-- The member of a table that has the name; other names go to `other`, if there is one. -/
def lookupName {α : Type} (table : List (String × α)) (other : Option α) (name : String) :
    Except Fault α :=
  match table.lookup name, other with
  | some a, _ => .ok a
  | none, some a => .ok a
  | none, none => .error (.unknown name (table.map Prod.fst))

/-- One of a fixed set of names. It may also stand as the only key of an object whose value is
`null`. -/
def name {α : Type} (table : List (String × α)) (other : Option α) (nameOf : α → String) :
    Codec α where
  write a := .text (nameOf a)
  read
    | .text s => lookupName table other s
    | .object ((.text s, value) :: more) closed => do
      let a ← lookupName table other s
      match value with
      | .null => if closed && more.isEmpty then .ok a else .error .malformed
      | d => .error d.refusal
    | _ => .error .malformed

end Codec

/-! ## Records -/

/-- What an absent field stands for. -/
inductive Presence (α : Type) where
  /-- The field must be there. -/
  | required
  /-- The field may be absent from an object, and then has this value. -/
  | optional (absent : α)
  /-- The field may be absent from an object and from the end of a list. -/
  | defaulted (absent : α)

/-- A field of the record type `ρ` with values in `α`. -/
structure Field (ρ α : Type) where
  name : String
  codec : Codec α
  get : ρ → α
  presence : Presence α
  /-- Whether a value is written at all. -/
  shown : α → Bool

/-- A mandatory field. -/
def Field.required {ρ α : Type} (name : String) (codec : Codec α) (get : ρ → α) : Field ρ α :=
  ⟨name, codec, get, .required, fun _ => true⟩

/-- A field that is `null` or absent when it has no value. In a list it has to be there. -/
def Field.optional {ρ α : Type} (name : String) (codec : Codec α) (get : ρ → Option α) :
    Field ρ (Option α) :=
  ⟨name, codec.optional, get, .optional none, fun _ => true⟩

/-- A field with a value of its own when it is absent, also from the end of a list. -/
def Field.defaulted {ρ α : Type} (name : String) (codec : Codec α) (get : ρ → α) (absent : α) :
    Field ρ α :=
  ⟨name, codec, get, .defaulted absent, fun _ => true⟩

/-- The fields of the record type `ρ`, with the types of their values. -/
inductive Fields (ρ : Type) : List Type → Type 1 where
  | nil : Fields ρ []
  | cons {α : Type} {αs : List Type} (field : Field ρ α) (rest : Fields ρ αs) : Fields ρ (α :: αs)

/-- One value for each field. -/
def Row : List Type → Type
  | [] => Unit
  | α :: αs => α × Row αs

/-- The values of the fields met so far. -/
def Slots : List Type → Type
  | [] => Unit
  | α :: αs => Option α × Slots αs

/-- No field met yet. -/
def Slots.empty : (αs : List Type) → Slots αs
  | [] => ()
  | _ :: αs => (none, Slots.empty αs)

namespace Fields

variable {ρ : Type}

/-- The entries of a record, in order. -/
def write {αs : List Type} : Fields ρ αs → ρ → List (String × Value)
  | .nil, _ => []
  | .cons f rest, r =>
    if f.shown (f.get r) then (f.name, f.codec.write (f.get r)) :: rest.write r else rest.write r

/-- Offers an entry to the fields: the slots with its value, or `none` if it is no field's entry. -/
def offer {αs : List Type} :
    Fields ρ αs → String → Document → Slots αs → Except Fault (Option (Slots αs))
  | .nil, _, _, _ => .ok none
  | .cons f rest, key, value, (slot, slots) =>
    if key = f.name then
      if slot.isSome then .error (.repeated f.name)
      else (f.codec.read value).map fun a => some (some a, slots)
    else (rest.offer key value slots).map fun filled => filled.map fun slots => (slot, slots)

/-- Takes the entries of an object one after another. -/
def collect {αs : List Type} (fs : Fields ρ αs) :
    Slots αs → List (Document × Document) → Except Fault (Slots αs)
  | slots, [] => .ok slots
  | slots, (.text key, value) :: rest => do
    match ← fs.offer key value slots with
    | some slots => fs.collect slots rest
    | none => if value.whole then fs.collect slots rest else .error .malformed
  | _, _ :: _ => .error .malformed

/-- The values of all fields; a mandatory field without a value is missing. -/
def close {αs : List Type} : Fields ρ αs → Slots αs → Except Fault (Row αs)
  | .nil, _ => .ok ()
  | .cons f rest, (slot, slots) => do
    let a ← match slot, f.presence with
      | some a, _ => .ok a
      | none, .required => .error (.missing f.name)
      | none, .optional a => .ok a
      | none, .defaulted a => .ok a
    let row ← rest.close slots
    .ok (a, row)

/-- Takes the items of a list in the order of the fields. -/
def readItems {αs : List Type} :
    Fields ρ αs → List Document → Bool → Except Fault (Row αs)
  | .nil, items, closed => if closed && items.isEmpty then .ok () else .error .malformed
  | .cons f rest, item :: items, closed => do
    let a ← f.codec.read item
    let row ← rest.readItems items closed
    .ok (a, row)
  | .cons f rest, [], closed =>
    if closed then
      match f.presence with
      | .defaulted a => do
        let row ← rest.readItems [] closed
        .ok (a, row)
      | _ => .error .mismatch
    else .error .malformed

/-- Reads the values of the fields from an object or a list. -/
def read {αs : List Type} (fs : Fields ρ αs) : Document → Except Fault (Row αs)
  | .object entries closed => do
    let slots ← fs.collect (Slots.empty αs) entries
    if closed then fs.close slots else .error .malformed
  | .list items closed => fs.readItems items closed
  | d => .error d.refusal

end Fields

/-- The codec of a record: its fields, and how a record is built from their values. -/
def Codec.record {ρ : Type} {αs : List Type} (fields : Fields ρ αs)
    (build : Row αs → Except Fault ρ) : Codec ρ where
  write r := .object (fields.write r)
  read d := fields.read d >>= build

end Payments.Json
