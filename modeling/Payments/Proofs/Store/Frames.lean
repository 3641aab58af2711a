import Payments.Proofs.Store.Queries
import Payments.Proofs.Store.Writes

/-!
# Payments.Proofs.Store.Frames -- writes that leave all other records alone

A write of a payment that has an identity looks at one record and changes at most that one
(`Store.SameBut`). What it answers and what it leaves there depend on that record only
(`Store.update_congr`). It never changes the indexes, nor which identities there are and in what
order they were first entered. So two stores that came from one by such writes are the same store as
soon as they hold the same records (`Store.eq_of_sameFrame`).
-/

namespace Payments

namespace Table

variable {κ α : Type} [DecidableEq κ]

/-- A value put in place of another leaves the keys as they are, in their order. -/
theorem keys_enter_of_mem {k : κ} {a : α} {es : List (κ × α)} (h : k ∈ es.map Prod.fst) :
    (enter k a es).map Prod.fst = es.map Prod.fst := by
  induction es with
  | nil => cases h
  | cons e rest ih =>
    obtain ⟨l, b⟩ := e
    by_cases hl : l = k
    · subst hl
      rw [enter, if_pos rfl]
      rfl
    · have hrest : k ∈ rest.map Prod.fst := by
        rcases List.mem_cons.1 h with heq | hmem
        · exact absurd heq.symm hl
        · exact hmem
      rw [enter, if_neg hl, List.map_cons, List.map_cons, ih hrest]

theorem mem_keys_of_get? {t : Table κ α} {k : κ} {a : α} (h : t.get? k = some a) :
    k ∈ t.entries.map Prod.fst := by
  obtain ⟨before, rest, he, -⟩ := List.lookup_eq_some_iff.1 h
  rw [he]
  simp

theorem entries_eq_of_lookup {es fs : List (κ × α)} (hn : (es.map Prod.fst).Nodup)
    (hkeys : es.map Prod.fst = fs.map Prod.fst)
    (h : ∀ k ∈ es.map Prod.fst, es.lookup k = fs.lookup k) : es = fs := by
  induction es generalizing fs with
  | nil => exact (List.map_eq_nil_iff.1 hkeys.symm).symm
  | cons e rest ih =>
    obtain ⟨k, a⟩ := e
    obtain ⟨⟨l, b⟩, fs, rfl, rfl, hrest⟩ := List.map_eq_cons_iff.1 hkeys.symm
    rw [List.map_cons, List.nodup_cons] at hn
    have hfirst := h l (by simp)
    simp only [lookup_cons_ite, if_true] at hfirst
    -- the first key does not come again, so the other look-ups go to the rest
    have hothers : ∀ m ∈ rest.map Prod.fst, rest.lookup m = fs.lookup m := by
      intro m hm
      have hne : m ≠ l := by
        rintro rfl
        exact hn.1 hm
      have hlookup := h m (List.mem_cons_of_mem l hm)
      rwa [lookup_cons_ite, lookup_cons_ite, if_neg hne, if_neg hne] at hlookup
    rw [Option.some.inj hfirst, ih hn.2 hrest.symm hothers]

/-- Two tables with the same keys, in the same order, and the same values are one. -/
theorem eq_of_get? {t u : Table κ α} (hkeys : t.entries.map Prod.fst = u.entries.map Prod.fst)
    (h : ∀ k, t.get? k = u.get? k) : t = u := by
  obtain ⟨es, hes⟩ := t
  obtain ⟨fs, hfs⟩ := u
  obtain rfl : es = fs := entries_eq_of_lookup hes hkeys fun k _ => h k
  rfl

end Table

namespace Store

variable {s s' t : Store} {i : PaymentId} {p : Payment} {text : String}

/-- The record of the identity with a text, if there is one; blank text is no identity. -/
def recordUnder (s : Store) (text : String) : Option Payment :=
  (PaymentId.of? text).bind s.record?

theorem recordUnder_text (s : Store) (i : PaymentId) : s.recordUnder i.text = s.record? i := by
  rw [recordUnder, PaymentId.of?, dif_pos i.notBlank]
  rfl

/-- The stores have the same indexes, and records of the same identities in the same order. -/
structure SameFrame (s s' : Store) : Prop where
  keys : s'.records.entries.map Prod.fst = s.records.entries.map Prod.fst
  byGatewayPayment : s'.byGatewayPayment = s.byGatewayPayment
  byOrder : s'.byOrder = s.byOrder

theorem eq_of_sameFrame (h : s.SameFrame s') (hrecords : ∀ i, s'.record? i = s.record? i) :
    s' = s := by
  obtain ⟨records, byGatewayPayment, byOrder⟩ := s
  obtain ⟨records', byGatewayPayment', byOrder'⟩ := s'
  obtain ⟨hkeys, rfl, rfl⟩ := h
  obtain rfl : records' = records := Table.eq_of_get? hkeys hrecords
  rfl

/-- The stores are the same but for the record of one identity. -/
structure SameBut (text : String) (s s' : Store) : Prop extends s.SameFrame s' where
  others : ∀ i : PaymentId, i.text ≠ text → s'.record? i = s.record? i

theorem SameBut.refl (text : String) (s : Store) : SameBut text s s :=
  ⟨⟨rfl, rfl, rfl⟩, fun _ _ => rfl⟩

theorem SameBut.trans (h : SameBut text s s') (h' : SameBut text s' t) : SameBut text s t where
  keys := h'.keys.trans h.keys
  byGatewayPayment := h'.byGatewayPayment.trans h.byGatewayPayment
  byOrder := h'.byOrder.trans h.byOrder
  others := fun i hi => (h'.others i hi).trans (h.others i hi)

theorem SameBut.recordUnder (h : SameBut text s s') {other : String} (hne : other ≠ text) :
    s'.recordUnder other = s.recordUnder other := by
  unfold Store.recordUnder PaymentId.of?
  split
  · exact h.others _ hne
  · rfl

theorem sameBut_file {q : Payment} (hq : s.record? i = some q) (p : Payment) :
    SameBut i.text s (s.file i p) where
  keys := Table.keys_enter_of_mem (Table.mem_keys_of_get? hq)
  byGatewayPayment := rfl
  byOrder := rfl
  others := fun _ hj => record?_file_of_ne p fun hji => hj (congrArg PaymentId.text hji)

/-- A write changes at most the record of the payment's identity. -/
theorem sameBut_update (hi : p.id = some i) (now : Instant) :
    SameBut i.text s (s.update p now).2 := by
  rcases s.update_cases p now with ⟨f, hf⟩ | ⟨j, q, hj, hq, -, hok⟩
  · rw [hf]
    exact .refl _ s
  · rw [hok]
    cases hi.symm.trans hj
    exact sameBut_file hq _

/-- A write leaves the identity of the payment alone. -/
theorem id_of_update {now : Instant} {q : Payment} (h : (s.update p now).1 = .ok q) :
    q.id = p.id := by
  rcases s.update_cases p now with ⟨f, hf⟩ | ⟨i, r, -, -, -, hok⟩
  · rw [hf] at h
    cases h
  · rw [hok] at h
    cases h
    rfl

/-- A write depends on the record of the payment's identity only. -/
theorem update_congr (hi : p.id = some i) (h : s.record? i = s'.record? i) (now : Instant) :
    (s.update p now).1 = (s'.update p now).1 ∧
      (s.update p now).2.record? i = (s'.update p now).2.record? i := by
  have hcheck : s.checkCurrent p = s'.checkCurrent p := by
    simp only [checkCurrent, hi, h]
  unfold update
  rw [hcheck]
  cases s'.checkCurrent p with
  | error f => exact ⟨rfl, h⟩
  | ok j =>
    rcases p.touch_cases now with ⟨f, hf⟩ | hok
    · rw [hf]
      exact ⟨rfl, h⟩
    · rw [hok]
      refine ⟨rfl, ?_⟩
      show (s.file j _).record? i = (s'.file j _).record? i
      rw [record?_file, record?_file, h]

/-! ## Two records -/

/-- The store `s'` is `s` with the record under one text taken from `a` and that under another from
`b`. -/
structure Joins (text other : String) (s a b s' : Store) : Prop extends s.SameFrame s' where
  first : s'.recordUnder text = a.recordUnder text
  second : s'.recordUnder other = b.recordUnder other
  others : ∀ i : PaymentId, i.text ≠ text → i.text ≠ other → s'.record? i = s.record? i

variable {other : String} {a b : Store}

theorem Joins.symm (h : Joins text other s a b s') : Joins other text s b a s' :=
  ⟨h.toSameFrame, h.second, h.first, fun i hi hi' => h.others i hi' hi⟩

/-- There is one such store only. -/
theorem Joins.unique (h : Joins text other s a b s') (h' : Joins text other s a b t) : t = s' := by
  apply eq_of_sameFrame
  · exact
      { keys := h'.keys.trans h.keys.symm
        byGatewayPayment := h'.byGatewayPayment.trans h.byGatewayPayment.symm
        byOrder := h'.byOrder.trans h.byOrder.symm }
  · intro i
    rw [← recordUnder_text, ← recordUnder_text]
    by_cases hi : i.text = text
    · rw [hi, h.first, h'.first]
    · by_cases hi' : i.text = other
      · rw [hi', h.second, h'.second]
      · rw [recordUnder_text, recordUnder_text, h.others i hi hi', h'.others i hi hi']

end Store

end Payments
