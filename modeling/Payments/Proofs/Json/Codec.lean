import Payments.Proofs.Json.Rendering
import Payments.Proofs.Outcome

/-!
# Payments.Proofs.Json.Codec -- what is read of what a codec wrote

`Codec.Gives c a b` says that the value written of `a` is read as `b`. For most types `b` is `a`
itself; amounts and times have values whose text is read as another value, and a type with amounts
and times in it inherits these. The codecs are put together from smaller ones, and so is this
relation: there is one lemma for each way of building a codec.

A record is read entry by entry into slots. `Fields.slots` are the slots of a record of which some
fields have been met, and an entry fills just the slot of its field (`Fields.offer_of_accepts`).
Nothing depends on the order of the entries, so a record is read as well from entries that have been
put in another order (`Codec.read_of_perm`).

In the other direction, whatever a codec reads is made of what its parts read (`Fields.Yields`).
-/

namespace Payments.Json

namespace Codec

variable {α β : Type}

/-- The value written of `a` is exact, and it is read as `b`. -/
structure Gives (c : Codec α) (a b : α) : Prop where
  exact : (c.write a).IsExact
  reads : c.read (c.write a).document = .ok b

/-- What is read of a value is read of its text. -/
theorem Gives.parse {c : Codec α} {a b : α} (h : c.Gives a b) : c.parse (c.render a) = .ok b :=
  parse_of_read h.exact h.reads

/-- What is read of a text is read of a tree. -/
theorem read_of_parse {c : Codec α} {text : String} {a : α} (h : c.parse text = .ok a) :
    ∃ d, c.read d = .ok a := by
  simp only [Codec.parse, Codec.readWhole, Except.bind_eq_ok] at h
  obtain ⟨b, hb, h⟩ := h
  refine ⟨_, hb.trans ?_⟩
  split at h
  · cases h
  · exact h

/-! ## Values of one token, and values made of other values -/

theorem gives_text (s : String) : text.Gives s s :=
  ⟨trivial, rfl⟩

theorem gives_flag (b : Bool) : flag.Gives b b :=
  ⟨trivial, rfl⟩

/-- A count of 64 bits is read as it was written. -/
theorem gives_count {n : Nat} (h : n < twoTo 64) : count.Gives n n := by
  have hexact : (Number.int n).IsExact := ⟨by omega, Int.ofNat_lt.2 h⟩
  refine ⟨hexact, ?_⟩
  show count.read (.number (Number.int n).numeral) = _
  rw [numeral_int]
  simp [count, value?_spellInt hexact]

/-- A value that is never written as `null` is told from its absence. -/
theorem Gives.optional {c : Codec α} (hnull : ∀ a, c.write a ≠ .null) {f : α → α} {o : Option α}
    (h : ∀ a ∈ o, c.Gives a (f a)) : c.optional.Gives o (o.map f) := by
  cases o with
  | none => exact ⟨trivial, rfl⟩
  | some a =>
    obtain ⟨hexact, hread⟩ := h a rfl
    refine ⟨hexact, ?_⟩
    show c.optional.read (c.write a).document = _
    have hdocument : (c.write a).document ≠ .null := fun hd =>
      hnull a (Value.document_eq_null.1 hd)
    simp only [Codec.optional]
    rw [hread]
    rfl

/-- A value that is read as itself is so too where it may be missing. -/
theorem Gives.optional_self {c : Codec α} (hnull : ∀ a, c.write a ≠ .null) {o : Option α}
    (h : ∀ a ∈ o, c.Gives a a) : c.optional.Gives o o := by
  simpa using Gives.optional (f := id) hnull h

theorem Gives.list {c : Codec α} {f : α → α} {as : List α} (h : ∀ a ∈ as, c.Gives a (f a)) :
    c.list.Gives as (as.map f) := by
  have hmap : (itemDocuments (as.map c.write)).mapM c.read = .ok (as.map f) := by
    rw [itemDocuments_eq_map, List.map_map, Except.mapM_eq_ok, List.forall₂_map_left_iff,
      List.forall₂_map_right_iff, List.forall₂_same]
    intro a ha
    exact (h a ha).reads
  refine ⟨?_, ?_⟩
  · show itemsAreExact (as.map c.write)
    rw [itemsAreExact_iff]
    intro v hv
    obtain ⟨a, ha, rfl⟩ := List.mem_map.1 hv
    exact (h a ha).exact
  · show (itemDocuments (as.map c.write)).mapM c.read >>= _ = _
    rw [hmap]
    rfl

theorem Gives.refine {c : Codec α} {write : β → α} {accept : α → Except Fault β} {a : α}
    {b b' : β} (h : c.Gives (write b) a) (ha : accept a = .ok b') :
    (c.refine write accept).Gives b b' := by
  refine ⟨h.exact, ?_⟩
  show c.read (c.write (write b)).document >>= accept = _
  rw [h.reads]
  exact ha

/-- A member of a table is read under its name. -/
theorem gives_name {table : List (String × α)} {other : Option α} {nameOf : α → String} {a : α}
    (h : lookupName table other (nameOf a) = .ok a) : (name table other nameOf).Gives a a :=
  ⟨trivial, h⟩

end Codec

/-! ## Writing and reading the fields of a record -/

/-- The value of a field that is absent from an object, if it may be. -/
def Field.absent? {ρ α : Type} (f : Field ρ α) : Option α :=
  match f.presence with
  | .required => none
  | .optional a => some a
  | .defaulted a => some a

/-- The field written of `r` is read as that of `r'`, or is absent and stands for it. -/
def Field.Gives {ρ α : Type} (f : Field ρ α) (r r' : ρ) : Prop :=
  (f.shown (f.get r) = true → f.codec.Gives (f.get r) (f.get r')) ∧
    (f.shown (f.get r) = false → f.absent? = some (f.get r'))

namespace Fields

variable {ρ : Type}

/-- Each field written of `r` is read as that of `r'`. -/
def Gives {αs : List Type} : Fields ρ αs → ρ → ρ → Prop
  | .nil, _, _ => True
  | .cons f rest, r, r' => f.Gives r r' ∧ rest.Gives r r'

/-- The names of the fields. -/
def names {αs : List Type} : Fields ρ αs → List String
  | .nil => []
  | .cons f rest => f.name :: rest.names

/-- The values of all fields of a record. -/
def row {αs : List Type} : Fields ρ αs → ρ → Row αs
  | .nil, _ => ()
  | .cons f rest, r => (f.get r, rest.row r)

/-- The slots of a record whose fields with some names have been met. -/
def slots {αs : List Type} : Fields ρ αs → ρ → List String → Slots αs
  | .nil, _, _ => ()
  | .cons f rest, r, met => (if f.name ∈ met then some (f.get r) else none, rest.slots r met)

/-- One of the fields has that name and reads the record's value there. -/
def Accepts {αs : List Type} : Fields ρ αs → ρ → String → Document → Prop
  | .nil, _, _, _ => False
  | .cons f rest, r, key, d =>
    key = f.name ∧ f.codec.read d = .ok (f.get r) ∨ rest.Accepts r key d

/-- Each field has been met or stands for the record's value when it is absent. -/
def Complete {αs : List Type} : Fields ρ αs → ρ → List String → Prop
  | .nil, _, _ => True
  | .cons f rest, r, met =>
    (f.name ∈ met ∨ f.absent? = some (f.get r)) ∧ rest.Complete r met

theorem slots_empty {αs : List Type} (fs : Fields ρ αs) (r : ρ) :
    fs.slots r [] = Slots.empty αs := by
  induction fs with
  | nil => rfl
  | cons f rest ih =>
    rw [slots, ih, if_neg List.not_mem_nil]
    rfl

/-- A name that is no field's changes no slot. -/
theorem slots_cons_of_not_mem {αs : List Type} {fs : Fields ρ αs} {key : String}
    (h : key ∉ fs.names) (r : ρ) (met : List String) :
    fs.slots r (key :: met) = fs.slots r met := by
  induction fs with
  | nil => rfl
  | cons f rest ih =>
    simp only [names, List.mem_cons, not_or] at h
    simp only [slots, ih h.2, List.mem_cons, Ne.symm h.1, false_or]
    rfl

theorem Accepts.mem_names {αs : List Type} {fs : Fields ρ αs} {r : ρ} {key : String} {d : Document}
    (h : fs.Accepts r key d) : key ∈ fs.names := by
  induction fs with
  | nil => exact h.elim
  | cons f rest ih =>
    rcases h with ⟨rfl, -⟩ | h
    · exact List.mem_cons_self
    · exact List.mem_cons_of_mem _ (ih h)

/-- An entry that a field accepts fills the slot of that field. -/
theorem offer_of_accepts {αs : List Type} {fs : Fields ρ αs} (hnames : fs.names.Nodup) {r : ρ}
    {key : String} {d : Document} (h : fs.Accepts r key d) {met : List String} (hmet : key ∉ met) :
    fs.offer key d (fs.slots r met) = .ok (some (fs.slots r (key :: met))) := by
  induction fs with
  | nil => exact h.elim
  | cons f rest ih =>
    obtain ⟨hfirst, hrest⟩ := List.nodup_cons.1 hnames
    by_cases hkey : key = f.name
    · subst hkey
      -- the name is no other field's
      have hread : f.codec.read d = .ok (f.get r) := by
        rcases h with ⟨-, hread⟩ | h
        · exact hread
        · exact absurd h.mem_names hfirst
      simp [offer, slots, hmet, hread, slots_cons_of_not_mem hfirst, Except.map]
    · have haccepts : rest.Accepts r key d := by
        rcases h with ⟨heq, -⟩ | h
        · exact absurd heq hkey
        · exact h
      simp only [offer, slots, if_neg hkey, ih hrest haccepts, List.mem_cons, Ne.symm hkey,
        false_or]
      rfl

/-- Entries that fields accept fill the slots of these fields, in whatever order they come. -/
theorem collect_of_accepts {αs : List Type} {fs : Fields ρ αs} (hnames : fs.names.Nodup) {r : ρ}
    {entries : List (String × Document)} (hkeys : (entries.map Prod.fst).Nodup)
    (h : ∀ e ∈ entries, fs.Accepts r e.1 e.2) (met : List String)
    (hmet : ∀ e ∈ entries, e.1 ∉ met) :
    fs.collect (fs.slots r met) (entries.map fun e => (.text e.1, e.2)) =
      .ok (fs.slots r ((entries.map Prod.fst).reverse ++ met)) := by
  induction entries generalizing met with
  | nil => rfl
  | cons e entries ih =>
    rw [List.map_cons, List.nodup_cons] at hkeys
    have hoffer := offer_of_accepts hnames (h e (by simp)) (hmet e (by simp))
    have hothers := ih hkeys.2 (fun x hx => h x (by simp [hx])) (e.1 :: met) (by
      intro x hx
      rw [List.mem_cons, not_or]
      refine ⟨?_, hmet x (by simp [hx])⟩
      intro heq
      exact hkeys.1 (heq ▸ List.mem_map_of_mem hx))
    rw [List.map_cons, collect, hoffer]
    show fs.collect (fs.slots r (e.1 :: met)) _ = _
    rw [hothers]
    simp

/-- When each field has been met or has a value without, the slots are the record's values. -/
theorem close_slots {αs : List Type} {fs : Fields ρ αs} {r : ρ} {met : List String}
    (h : fs.Complete r met) : fs.close (fs.slots r met) = .ok (fs.row r) := by
  induction fs with
  | nil => rfl
  | cons f rest ih =>
    obtain ⟨name, codec, get, presence, shown⟩ := f
    obtain ⟨hfirst, hrest⟩ := h
    simp only [slots]
    by_cases hmet : name ∈ met
    · rw [if_pos hmet]
      show (rest.close (rest.slots r met) >>= fun row => Except.ok (get r, row)) = _
      rw [ih hrest]
      rfl
    · have habsent := hfirst.resolve_left hmet
      rw [if_neg hmet]
      cases presence with
      | required => cases habsent
      | optional a | defaulted a =>
        obtain rfl : a = get r := Option.some.inj habsent
        show (rest.close (rest.slots r met) >>= fun row => Except.ok (get r, row)) = _
        rw [ih hrest]
        rfl

theorem complete_mono {αs : List Type} {fs : Fields ρ αs} {r : ρ} {met met' : List String}
    (h : fs.Complete r met) (hsub : ∀ name ∈ met, name ∈ met') : fs.Complete r met' := by
  induction fs with
  | nil => trivial
  | cons f rest ih => exact ⟨h.1.imp_left (hsub _), ih h.2⟩

/-- An object whose entries the fields accept is read as the record's values. -/
theorem read_object {αs : List Type} {fs : Fields ρ αs} (hnames : fs.names.Nodup) {r : ρ}
    (entries : List (String × Document)) (hkeys : (entries.map Prod.fst).Nodup)
    (h : ∀ e ∈ entries, fs.Accepts r e.1 e.2) (hcomplete : fs.Complete r (entries.map Prod.fst)) :
    fs.read (.object (entries.map fun e => (.text e.1, e.2)) true) = .ok (fs.row r) := by
  have hcollect := collect_of_accepts hnames hkeys h [] (by simp)
  rw [slots_empty, List.append_nil] at hcollect
  rw [read, hcollect]
  exact close_slots (complete_mono hcomplete fun name hname => List.mem_reverse.2 hname)

/-! ## What is written of a record -/

variable {r r' : ρ}

theorem map_fst_write_sublist {αs : List Type} (fs : Fields ρ αs) (r : ρ) :
    ((fs.write r).map Prod.fst).Sublist fs.names := by
  induction fs with
  | nil => exact List.Sublist.slnil
  | cons f rest ih =>
    simp only [write, names]
    split
    · exact ih.cons_cons f.name
    · exact ih.cons f.name

theorem Gives.exact {αs : List Type} {fs : Fields ρ αs} (h : fs.Gives r r') :
    ∀ e ∈ fs.write r, e.2.IsExact := by
  induction fs with
  | nil => simp [write]
  | cons f rest ih =>
    obtain ⟨hf, hrest⟩ := h
    simp only [write]
    split
    · next hshown =>
      intro e he
      rcases List.mem_cons.1 he with rfl | he
      · exact (hf.1 hshown).exact
      · exact ih hrest e he
    · exact ih hrest

theorem Gives.accepts {αs : List Type} {fs : Fields ρ αs} (h : fs.Gives r r') :
    ∀ e ∈ fs.write r, fs.Accepts r' e.1 e.2.document := by
  induction fs with
  | nil => simp [write]
  | cons f rest ih =>
    obtain ⟨hf, hrest⟩ := h
    simp only [write]
    split
    · next hshown =>
      intro e he
      rcases List.mem_cons.1 he with rfl | he
      · exact .inl ⟨rfl, (hf.1 hshown).reads⟩
      · exact .inr (ih hrest e he)
    · intro e he
      exact .inr (ih hrest e he)

theorem Gives.complete {αs : List Type} {fs : Fields ρ αs} (h : fs.Gives r r') :
    fs.Complete r' ((fs.write r).map Prod.fst) := by
  induction fs with
  | nil => trivial
  | cons f rest ih =>
    obtain ⟨hf, hrest⟩ := h
    simp only [write]
    split
    · refine ⟨.inl (by simp), complete_mono (ih hrest) ?_⟩
      intro name hname
      simp only [List.map_cons, List.mem_cons]
      exact .inr hname
    · next hhidden => exact ⟨.inr (hf.2 (Bool.eq_false_iff.2 hhidden)), ih hrest⟩

end Fields

namespace Codec

variable {ρ : Type} {αs : List Type} {fs : Fields ρ αs} {build : Row αs → Except Fault ρ} {r r' : ρ}

/-- A record is read from its entries in any order. -/
theorem read_of_perm (hnames : fs.names.Nodup) (h : fs.Gives r r')
    (hbuild : build (fs.row r') = .ok r') {entries : List (String × Value)}
    (hperm : entries.Perm (fs.write r)) :
    (record fs build).read (Value.object entries).document = .ok r' := by
  have hread := fs.read_object hnames (r := r')
    (entries.map fun e => (e.1, e.2.document))
    (by
      rw [List.map_map]
      exact ((hperm.map Prod.fst).nodup_iff).2 ((fs.map_fst_write_sublist r).nodup hnames))
    (by
      intro e he
      obtain ⟨e', he', rfl⟩ := List.mem_map.1 he
      exact h.accepts e' (hperm.mem_iff.1 he'))
    (by
      rw [List.map_map]
      refine Fields.complete_mono h.complete ?_
      intro name hname
      exact (hperm.map Prod.fst).mem_iff.2 hname)
  rw [List.map_map] at hread
  show fs.read (.object (entryDocuments entries) true) >>= build = _
  rw [entryDocuments_eq_map]
  show fs.read (.object (entries.map ((fun e => (.text e.1, e.2)) ∘ fun e => (e.1, e.2.document)))
    true) >>= build = _
  rw [hread]
  exact hbuild

theorem write_record_ne_null (r : ρ) : (record fs build).write r ≠ .null :=
  nofun

/-- A record is read as the record whose fields are read. -/
theorem gives_record (hnames : fs.names.Nodup) (h : fs.Gives r r')
    (hbuild : build (fs.row r') = .ok r') : (record fs build).Gives r r' where
  exact := entriesAreExact_iff.2 h.exact
  reads := read_of_perm hnames h hbuild (List.Perm.refl _)

end Codec

/-! ## What can be read at all -/

/-- The value of a field that was read, or that stands for its absence. -/
def Field.Yields {ρ α : Type} (f : Field ρ α) (a : α) : Prop :=
  (∃ d, f.codec.read d = .ok a) ∨ f.absent? = some a

namespace Fields

variable {ρ : Type}

/-- Each value was read by its field or stands for its absence. -/
def Yields {αs : List Type} : Fields ρ αs → Row αs → Prop
  | .nil, _ => True
  | .cons f rest, (a, row) => f.Yields a ∧ rest.Yields row

/-- Each value met so far was read by its field. -/
def Filled {αs : List Type} : Fields ρ αs → Slots αs → Prop
  | .nil, _ => True
  | .cons f rest, (slot, slots) =>
    (∀ a ∈ slot, ∃ d, f.codec.read d = .ok a) ∧ rest.Filled slots

theorem filled_empty {αs : List Type} (fs : Fields ρ αs) : fs.Filled (Slots.empty αs) := by
  induction fs with
  | nil => trivial
  | cons f rest ih => exact ⟨by simp, ih⟩

theorem Filled.offer {αs : List Type} {fs : Fields ρ αs} {slots slots' : Slots αs}
    (h : fs.Filled slots) {key : String} {d : Document}
    (hoffer : fs.offer key d slots = .ok (some slots')) : fs.Filled slots' := by
  induction fs with
  | nil => cases hoffer
  | cons f rest ih =>
    obtain ⟨slot, slots⟩ := slots
    simp only [Fields.offer] at hoffer
    split at hoffer
    · split at hoffer
      · cases hoffer
      · obtain ⟨a, hread, heq⟩ := Except.map_eq_ok.1 hoffer
        cases heq
        refine ⟨?_, h.2⟩
        intro b hb
        cases hb
        exact ⟨d, hread⟩
    · obtain ⟨filled, hrest, heq⟩ := Except.map_eq_ok.1 hoffer
      cases filled with
      | none => cases heq
      | some slots'' =>
        cases heq
        exact ⟨h.1, ih h.2 hrest⟩

theorem Filled.collect {αs : List Type} {fs : Fields ρ αs} {slots slots' : Slots αs}
    (h : fs.Filled slots) {entries : List (Document × Document)}
    (hcollect : fs.collect slots entries = .ok slots') : fs.Filled slots' := by
  induction entries generalizing slots with
  | nil =>
    cases hcollect
    exact h
  | cons e entries ih =>
    obtain ⟨key, d⟩ := e
    cases key with
    | text key =>
      obtain ⟨offered, hoffer, hrest⟩ := Except.bind_eq_ok.1 hcollect
      cases offered with
      | some slots'' => exact ih (h.offer hoffer) hrest
      | none =>
        simp only at hrest
        split at hrest
        · exact ih h hrest
        · cases hrest
    | _ => cases hcollect

theorem Filled.close {αs : List Type} {fs : Fields ρ αs} {slots : Slots αs} {row : Row αs}
    (h : fs.Filled slots) (hclose : fs.close slots = .ok row) : fs.Yields row := by
  induction fs with
  | nil => trivial
  | cons f rest ih =>
    obtain ⟨name, codec, get, presence, shown⟩ := f
    obtain ⟨slot, slots⟩ := slots
    cases slot with
    | some a =>
      obtain ⟨row', hrow, heq⟩ := Except.bind_eq_ok.1
        (show (rest.close slots >>= fun row => Except.ok (a, row)) = _ from hclose)
      cases heq
      exact ⟨.inl (h.1 a rfl), ih h.2 hrow⟩
    | none =>
      cases presence with
      | required => cases hclose
      | optional a | defaulted a =>
        obtain ⟨row', hrow, heq⟩ := Except.bind_eq_ok.1
          (show (rest.close slots >>= fun row => Except.ok (a, row)) = _ from hclose)
        cases heq
        exact ⟨.inr rfl, ih h.2 hrow⟩

theorem yields_of_readItems {αs : List Type} {fs : Fields ρ αs} {items : List Document}
    {closed : Bool} {row : Row αs} (h : fs.readItems items closed = .ok row) : fs.Yields row := by
  induction fs generalizing items with
  | nil => trivial
  | cons f rest ih =>
    cases items with
    | cons item items =>
      obtain ⟨a, ha, h⟩ := Except.bind_eq_ok.1 h
      obtain ⟨row', hrow, heq⟩ := Except.bind_eq_ok.1 h
      cases heq
      exact ⟨.inl ⟨item, ha⟩, ih hrow⟩
    | nil =>
      simp only [readItems] at h
      split at h
      · split at h
        · next a hp =>
          obtain ⟨row', hrow, heq⟩ := Except.bind_eq_ok.1 h
          cases heq
          exact ⟨.inr (by simp [Field.absent?, hp]), ih hrow⟩
        · cases h
      · cases h

/-- The values of a record that is read were read by its fields or stand for their absence. -/
theorem yields_of_read {αs : List Type} {fs : Fields ρ αs} {d : Document} {row : Row αs}
    (h : fs.read d = .ok row) : fs.Yields row := by
  cases d with
  | object entries closed =>
    obtain ⟨slots, hcollect, h⟩ := Except.bind_eq_ok.1 h
    split at h
    · exact (fs.filled_empty.collect hcollect).close h
    · cases h
  | list items closed => exact yields_of_readItems h
  | _ => cases h

end Fields

namespace Codec

/-- A record that is read is built from values that its fields yield. -/
theorem yields_of_record {ρ : Type} {αs : List Type} {fs : Fields ρ αs}
    {build : Row αs → Except Fault ρ} {d : Document} {r : ρ}
    (h : (record fs build).read d = .ok r) : ∃ row, fs.Yields row ∧ build row = .ok r := by
  obtain ⟨row, hrow, hbuild⟩ := Except.bind_eq_ok.1 h
  exact ⟨row, Fields.yields_of_read hrow, hbuild⟩

/-- A value that was read where it may be missing was read by the codec of the value. -/
theorem read_of_optional {α : Type} {c : Codec α} {d : Document} {o : Option α}
    (h : c.optional.read d = .ok o) {a : α} (ha : a ∈ o) : ∃ d', c.read d' = .ok a := by
  simp only [Codec.optional] at h
  split at h
  · cases h
    cases ha
  · obtain ⟨b, hb, rfl⟩ := Except.map_eq_ok.1 h
    cases ha
    exact ⟨_, hb⟩

theorem read_of_list {α : Type} {c : Codec α} {d : Document} {as : List α}
    (h : c.list.read d = .ok as) {a : α} (ha : a ∈ as) : ∃ d', c.read d' = .ok a := by
  simp only [Codec.list] at h
  split at h
  · obtain ⟨bs, hbs, h⟩ := Except.bind_eq_ok.1 h
    split at h
    · cases h
      obtain ⟨d', -, hd'⟩ := Except.exists_of_mem_mapM hbs ha
      exact ⟨d', hd'⟩
    · cases h
  · cases h

end Codec

theorem takeDigits_lt {m : Nat} (h : m < twoTo 64) (digits : List Char) :
    (takeDigits m digits).1 < twoTo 64 := by
  induction digits generalizing m with
  | nil => exact h
  | cons c cs ih =>
    rw [takeDigits]
    split
    · next hfits => exact ih hfits
    · exact h

/-- A whole number that is read has at most 64 bits. -/
theorem Numeral.lt_of_value? {n : Numeral} {i : Int} (h : n.value? = some (.int i)) :
    i < twoTo 64 := by
  have hwhole := takeDigits_lt (m := 0) (by decide) n.whole
  simp only [Numeral.value?] at h
  split at h
  · cases h
    exact Int.ofNat_lt.2 hwhole
  · split at h
    · cases h
      have : (0 : Int) < twoTo 64 := by decide
      omega
    · obtain ⟨a, -, heq⟩ := Option.map_eq_some_iff.1 h
      cases heq

theorem Codec.lt_of_read_count {d : Document} {n : Nat} (h : count.read d = .ok n) :
    n < twoTo 64 := by
  cases d with
  | number numeral =>
    simp only [count] at h
    split at h
    · next i hvalue =>
      have hi := Numeral.lt_of_value? hvalue
      split at h
      · cases h
        omega
      · cases h
    · cases h
    · cases h
  | _ => cases h

end Payments.Json
