/-!
# Payments.Table -- finite maps as lists of entries

A table holds at most one value under each key. It is a list of entries with pairwise different
keys; the order of the entries is the order in which their keys were first entered, and no look-up
depends on it.
-/

namespace Payments

namespace Table

/-- Puts a value under a key into a list of entries, in place of the value that is there. -/
def enter {κ α : Type} [DecidableEq κ] (k : κ) (a : α) : List (κ × α) → List (κ × α)
  | [] => [(k, a)]
  | (l, b) :: rest => if l = k then (k, a) :: rest else (l, b) :: enter k a rest

section

variable {κ α : Type} [DecidableEq κ]

theorem mem_keys_enter {k l : κ} {a : α} {es : List (κ × α)} :
    l ∈ (enter k a es).map Prod.fst ↔ l = k ∨ l ∈ es.map Prod.fst := by
  induction es with
  | nil => simp [enter]
  | cons e rest ih =>
    obtain ⟨m, b⟩ := e
    by_cases h : m = k
    · subst h; simp [enter]
    · simp only [enter, if_neg h, List.map_cons, List.mem_cons, ih]
      constructor
      · rintro (rfl | rfl | hm)
        · exact Or.inr (Or.inl rfl)
        · exact Or.inl rfl
        · exact Or.inr (Or.inr hm)
      · rintro (rfl | rfl | hm)
        · exact Or.inr (Or.inl rfl)
        · exact Or.inl rfl
        · exact Or.inr (Or.inr hm)

theorem nodup_keys_enter {k : κ} {a : α} {es : List (κ × α)}
    (h : (es.map Prod.fst).Nodup) : ((enter k a es).map Prod.fst).Nodup := by
  induction es with
  | nil => simp [enter]
  | cons e rest ih =>
    obtain ⟨m, b⟩ := e
    simp only [List.map_cons, List.nodup_cons] at h
    by_cases hm : m = k
    · subst hm; simpa [enter] using h
    · simp only [enter, if_neg hm, List.map_cons, List.nodup_cons, mem_keys_enter]
      exact ⟨fun hk => hk.elim hm h.1, ih h.2⟩

end

end Table

/-- A finite map. -/
structure Table (κ α : Type) where
  entries : List (κ × α)
  nodup : (entries.map Prod.fst).Nodup

namespace Table

variable {κ α : Type}

/-- The table without entries. -/
def empty : Table κ α := ⟨[], List.nodup_nil⟩

instance : EmptyCollection (Table κ α) := ⟨empty⟩

/-- The values, in the order in which their keys were first entered. -/
def values (t : Table κ α) : List α :=
  t.entries.map Prod.snd

/-- The number of entries. -/
def size (t : Table κ α) : Nat :=
  t.entries.length

variable [DecidableEq κ]

/-- The value under a key. -/
def get? (t : Table κ α) (k : κ) : Option α :=
  t.entries.lookup k

/-- Whether there is a value under a key. -/
def holds (t : Table κ α) (k : κ) : Bool :=
  (t.get? k).isSome

/-- The table with a value under a key, in place of the value that was there. -/
def put (t : Table κ α) (k : κ) (a : α) : Table κ α :=
  ⟨enter k a t.entries, nodup_keys_enter t.nodup⟩

theorem lookup_cons_ite (k l : κ) (a : α) (es : List (κ × α)) :
    ((k, a) :: es).lookup l = if l = k then some a else es.lookup l := by
  by_cases h : l = k
  · simp [h]
  · simp [List.lookup_cons, beq_eq_false_iff_ne.2 h, h]

theorem lookup_enter (k l : κ) (a : α) (es : List (κ × α)) :
    (enter k a es).lookup l = if l = k then some a else es.lookup l := by
  induction es with
  | nil => simpa [enter] using lookup_cons_ite k l a []
  | cons e rest ih =>
    obtain ⟨m, b⟩ := e
    by_cases hm : m = k
    · subst hm
      by_cases h : l = m <;> simp [enter, lookup_cons_ite, h]
    · by_cases hl : l = m
      · subst hl; simp [enter, hm]
      · simp [enter, lookup_cons_ite, hm, hl, ih]

/-- A table answers with what was last put under the key. -/
theorem get?_put (t : Table κ α) (k l : κ) (a : α) :
    (t.put k a).get? l = if l = k then some a else t.get? l :=
  lookup_enter k l a t.entries

@[simp] theorem get?_empty (k : κ) : (∅ : Table κ α).get? k = none := rfl

end Table

end Payments
