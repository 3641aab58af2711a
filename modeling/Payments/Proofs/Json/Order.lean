import Mathlib.Data.String.Basic
import Payments.Proofs.Json.Codec

/-!
# Payments.Proofs.Json.Order -- values of any kind, and objects in order

A reader that does not know what it reads keeps the value and puts the entries of every object in
the order of their names. So a value comes back as it was written if its objects are in that order
already and it is nested no deeper than the reader goes (`Value.ofDocument_document`). An object can
be brought into order: if no name is given twice, none of its entries is lost
(`Value.sortedObject_eq`), and a record is still read from it (`Codec.gives_sorted`).
-/

namespace Payments.Json

/-! ## Reading a value as it stands -/

/-- The value is nested at most `depth` deep, and all its objects are in the order of their names.
-/
def Value.Fits : Nat → Value → Prop
  | depth + 1, .list items => ∀ v ∈ items, v.Fits depth
  | depth + 1, .object entries =>
    entries.Pairwise (·.1 < ·.1) ∧ ∀ e ∈ entries, e.2.Fits depth
  | 0, .list _ => False
  | 0, .object _ => False
  | _, _ => True

/-- A value that is neither a list nor an object. -/
def Value.IsPlain : Value → Prop
  | .list _ => False
  | .object _ => False
  | _ => True

theorem Value.IsPlain.fits {v : Value} (h : v.IsPlain) (depth : Nat) : v.Fits depth := by
  cases v <;> simp_all [IsPlain, Fits]

theorem Number.IsExact.value? {n : Number} (h : n.IsExact) : n.numeral.value? = some n := by
  cases n with
  | int i =>
    rw [numeral_int]
    exact value?_spellInt h
  | double negative a => exact h.elim

/-- An entry whose name is greater than all others goes to the end. -/
theorem putEntry_last {α : Type} {key : String} {a : α} {entries : List (String × α)}
    (h : ∀ e ∈ entries, e.1 < key) : putEntry key a entries = entries ++ [(key, a)] := by
  induction entries with
  | nil => rfl
  | cons e entries ih =>
    obtain ⟨k, v⟩ := e
    have hk : k < key := h (k, v) List.mem_cons_self
    rw [putEntry, if_neg (lt_asymm hk), if_neg (ne_of_gt hk),
      ih fun x hx => h x (List.mem_cons_of_mem _ hx)]
    rfl

/-- Entries that are in order stay as they are. -/
theorem Value.sortedObject_of_pairwise {entries : List (String × Value)}
    (h : entries.Pairwise (·.1 < ·.1)) : sortedObject entries = .object entries := by
  suffices hfold : ∀ (pre : List (String × Value)),
      (pre ++ entries).Pairwise (·.1 < ·.1) →
      entries.foldl (fun acc e => putEntry e.1 e.2 acc) pre = pre ++ entries by
    exact congrArg object (hfold [] h)
  clear h
  induction entries with
  | nil => simp
  | cons e entries ih =>
    intro pre hpre
    have hlast : ∀ x ∈ pre, x.1 < e.1 := fun x hx =>
      (List.pairwise_append.1 hpre).2.2 x hx e List.mem_cons_self
    show entries.foldl _ (putEntry e.1 e.2 pre) = _
    rw [List.append_cons] at hpre
    rw [putEntry_last hlast]
    exact (ih _ hpre).trans (List.append_cons pre e entries).symm

/-- A value that fits is read as it stands. -/
theorem Value.ofDocument_document {depth : Nat} {v : Value} (hexact : v.IsExact)
    (h : v.Fits depth) : ofDocument depth v.document = .ok v := by
  induction depth generalizing v with
  | zero =>
    cases v with
    | number n => simp [document, ofDocument, Number.IsExact.value? hexact]
    | list items | object entries => exact h.elim
    | _ => rfl
  | succ depth ih =>
    cases v with
    | number n => simp [document, ofDocument, Number.IsExact.value? hexact]
    | list items =>
      have hitems : (itemDocuments items).mapM (ofDocument depth) = .ok items := by
        rw [itemDocuments_eq_map, Except.mapM_eq_ok, List.forall₂_map_left_iff, List.forall₂_same]
        intro v hv
        exact ih (itemsAreExact_iff.1 hexact v hv) (h v hv)
      simp only [document, ofDocument]
      rw [hitems]
      rfl
    | object entries =>
      obtain ⟨horder, hvalues⟩ := h
      simp only [document, ofDocument]
      refine Except.bind_eq_ok.2 ⟨entries, ?_, congrArg Except.ok (sortedObject_of_pairwise horder)⟩
      rw [entryDocuments_eq_map, Except.mapM_eq_ok, List.forall₂_map_left_iff, List.forall₂_same]
      intro e he
      simp only [ih (entriesAreExact_iff.1 hexact e he) (hvalues e he)]
      rfl
    | _ => rfl

theorem Codec.gives_any {depth : Nat} {v : Value} (hexact : v.IsExact) (h : v.Fits depth) :
    (any depth).Gives v v :=
  ⟨hexact, Value.ofDocument_document hexact h⟩

/-! ## Putting entries in order -/

section Sorting

variable {α : Type} {key : String} {a : α} {entries : List (String × α)}

/-- A name that is new is put in front of an entry of the list, or behind them all. -/
theorem putEntry_perm (h : key ∉ entries.map Prod.fst) :
    (putEntry key a entries).Perm ((key, a) :: entries) := by
  induction entries with
  | nil => exact List.Perm.refl _
  | cons e entries ih =>
    obtain ⟨k, v⟩ := e
    rw [List.map_cons, List.mem_cons, not_or] at h
    rw [putEntry]
    split
    · exact List.Perm.refl _
    · rw [if_neg h.1]
      exact ((ih h.2).cons (k, v)).trans (List.Perm.swap (key, a) (k, v) entries)

theorem putEntry_pairwise (hnew : key ∉ entries.map Prod.fst)
    (h : entries.Pairwise (·.1 < ·.1)) : (putEntry key a entries).Pairwise (·.1 < ·.1) := by
  induction entries with
  | nil => exact List.pairwise_singleton _ _
  | cons e entries ih =>
    obtain ⟨k, v⟩ := e
    obtain ⟨hfirst, hrest⟩ := List.pairwise_cons.1 h
    rw [List.map_cons, List.mem_cons, not_or] at hnew
    rw [putEntry]
    split
    · next hlt =>
      refine List.pairwise_cons.2 ⟨?_, h⟩
      intro x hx
      rcases List.mem_cons.1 hx with rfl | hx
      · exact hlt
      · exact lt_trans hlt (hfirst x hx)
    · next hge =>
      rw [if_neg hnew.1]
      have hlt : k < key := lt_of_le_of_ne (not_lt.1 hge) (Ne.symm hnew.1)
      refine List.pairwise_cons.2 ⟨?_, ih hnew.2 hrest⟩
      intro x hx
      rcases List.mem_cons.1 ((putEntry_perm hnew.2).mem_iff.1 hx) with rfl | hx
      · exact hlt
      · exact hfirst x hx

end Sorting

/-- An object in which no name is given twice keeps its entries when they are put in order. -/
theorem Value.sortedObject_eq {entries : List (String × Value)}
    (h : (entries.map Prod.fst).Nodup) :
    ∃ sorted, sortedObject entries = .object sorted ∧ sorted.Perm entries ∧
      sorted.Pairwise (·.1 < ·.1) := by
  suffices hfold : ∀ (acc : List (String × Value)), acc.Pairwise (·.1 < ·.1) →
      ((acc ++ entries).map Prod.fst).Nodup →
      (entries.foldl (fun acc e => putEntry e.1 e.2 acc) acc).Perm (acc ++ entries) ∧
        (entries.foldl (fun acc e => putEntry e.1 e.2 acc) acc).Pairwise (·.1 < ·.1) by
    exact ⟨_, rfl, hfold [] List.Pairwise.nil h⟩
  clear h
  induction entries with
  | nil => intro acc hacc _; simpa using hacc
  | cons e entries ih =>
    intro acc hacc hnodup
    have hperm : (acc ++ e :: entries).Perm (e :: acc ++ entries) := List.perm_middle
    have hnodup : ((e :: acc ++ entries).map Prod.fst).Nodup :=
      (hperm.map Prod.fst).nodup_iff.1 hnodup
    have hnew : e.1 ∉ acc.map Prod.fst := by
      intro hmem
      refine (List.nodup_cons.1 hnodup).1 ?_
      exact (List.map_append ▸ List.mem_append_left _ hmem)
    have hput : (putEntry e.1 e.2 acc).Perm (e :: acc) := putEntry_perm hnew
    have hput' := hput.append_right entries
    obtain ⟨hall, horder⟩ := ih _ (putEntry_pairwise (a := e.2) hnew hacc)
      ((hput'.map Prod.fst).nodup_iff.2 hnodup)
    exact ⟨hall.trans (hput'.trans hperm.symm), horder⟩

/-! ## Records of plain values -/

/-- Everything that the codec writes is plain. -/
def Codec.IsPlain {α : Type} (c : Codec α) : Prop :=
  ∀ a, (c.write a).IsPlain

@[simp] theorem Codec.text_isPlain : text.IsPlain := fun _ => trivial

@[simp] theorem Codec.flag_isPlain : flag.IsPlain := fun _ => trivial

@[simp] theorem Codec.optional_isPlain {α : Type} {c : Codec α} (h : c.IsPlain) :
    c.optional.IsPlain := by
  intro o
  cases o with
  | none => trivial
  | some a => exact h a

section

variable {ρ α : Type} (name : String) (c : Codec α)

@[simp] theorem Field.codec_required (get : ρ → α) : (required name c get).codec = c := rfl

@[simp] theorem Field.codec_optional (get : ρ → Option α) :
    (optional name c get).codec = c.optional := rfl

@[simp] theorem Field.codec_defaulted (get : ρ → α) (absent : α) :
    (defaulted name c get absent).codec = c := rfl

end

/-- Everything that the fields write is plain. -/
def Fields.ArePlain {ρ : Type} {αs : List Type} : Fields ρ αs → Prop
  | .nil => True
  | .cons f rest => f.codec.IsPlain ∧ rest.ArePlain

namespace Fields

variable {ρ : Type} {αs : List Type} {fs : Fields ρ αs}

theorem ArePlain.write (h : fs.ArePlain) {r : ρ} : ∀ e ∈ fs.write r, e.2.IsPlain := by
  induction fs with
  | nil => simp [Fields.write]
  | cons f rest ih =>
    intro e he
    simp only [Fields.write] at he
    split at he
    · rcases List.mem_cons.1 he with rfl | he
      · exact h.1 _
      · exact ih h.2 e he
    · exact ih h.2 e he

end Fields

/-- The entries of a record of plain values, put in order, are read as that value by whoever takes
any value, and as the record by whoever knows it. -/
theorem Codec.gives_sorted {ρ : Type} {αs : List Type} {fs : Fields ρ αs}
    {build : Row αs → Except Fault ρ} {r r' : ρ} (hnames : fs.names.Nodup) (hplain : fs.ArePlain)
    (h : fs.Gives r r') (hbuild : build (fs.row r') = .ok r') (depth : Nat) :
    (any (depth + 1)).Gives (.sortedObject (fs.write r)) (.sortedObject (fs.write r)) ∧
      (record fs build).read (Value.sortedObject (fs.write r)).document = .ok r' := by
  obtain ⟨sorted, heq, hperm, horder⟩ :=
    Value.sortedObject_eq ((fs.map_fst_write_sublist r).nodup hnames)
  rw [heq]
  refine ⟨gives_any ?_ ⟨horder, ?_⟩, read_of_perm hnames h hbuild hperm⟩
  · exact entriesAreExact_iff.2 fun e he => h.exact e (hperm.mem_iff.1 he)
  · exact fun e he => (hplain.write e (hperm.mem_iff.1 he)).fits depth

end Payments.Json
