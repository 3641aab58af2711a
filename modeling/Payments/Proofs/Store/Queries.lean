import Payments.Store

/-!
# Payments.Proofs.Store.Queries -- where the results of look-ups come from

Whatever a look-up shows is a record of the store, filed under its own identity.
-/

namespace Payments

namespace Table

variable {κ α : Type} [DecidableEq κ]

theorem lookup_of_mem {k : κ} {a : α} {es : List (κ × α)} (hn : (es.map Prod.fst).Nodup)
    (h : (k, a) ∈ es) : es.lookup k = some a := by
  induction es with
  | nil => cases h
  | cons e rest ih =>
    obtain ⟨l, b⟩ := e
    rw [List.map_cons, List.nodup_cons] at hn
    rw [lookup_cons_ite]
    rcases List.mem_cons.1 h with he | hr
    · cases he
      rw [if_pos rfl]
    · have hl : k ≠ l := by
        rintro rfl
        exact hn.1 (List.mem_map.2 ⟨(k, a), hr, rfl⟩)
      rw [if_neg hl]
      exact ih hn.2 hr

theorem exists_get?_of_mem_values {t : Table κ α} {a : α} (h : a ∈ t.values) :
    ∃ k, t.get? k = some a := by
  obtain ⟨⟨k, b⟩, he, rfl⟩ := List.mem_map.1 h
  exact ⟨k, lookup_of_mem t.nodup he⟩

end Table

namespace Store

/-- The store holds this very record, under its identity. -/
def HasRecord (s : Store) (p : Payment) : Prop :=
  ∃ i, s.record? i = some p

theorem hasRecord_of_mem_search {s : Store} {c : Criteria} {r : PageRequest} {p : Payment}
    (h : p ∈ (s.search c r).items) : s.HasRecord p := by
  -- a page is cut out of the sorted payments
  have hs : p ∈ Payment.newestFirst (s.records.values.filter c.admits) :=
    List.mem_of_mem_drop (List.mem_of_mem_take h)
  have hf : p ∈ s.records.values.filter c.admits := (List.mergeSort_perm _ _).mem_iff.1 hs
  exact Table.exists_get?_of_mem_values (List.mem_filter.1 hf).1

theorem hasRecord_of_mem_select {s : Store} {c : Criteria} {p : Payment} (h : p ∈ s.select c) :
    s.HasRecord p :=
  hasRecord_of_mem_search h

theorem hasRecord_of_mem_findByPayer {s : Store} {company : String} {p : Payment}
    (h : p ∈ s.findByPayer company) : s.HasRecord p :=
  hasRecord_of_mem_select (List.mem_filter.1 h).1

theorem findById_eq_some {s : Store} {i : PaymentId} {p : Payment} :
    s.findById i = some p ↔ s.record? i = some p ∧ p.isDeleted = false := by
  unfold findById
  rw [Option.filter_eq_some_iff, Bool.not_eq_true']

/-- What can be asked of a store. -/
inductive Look where
  /-- The record of an identity, deleted or not. -/
  | record (i : PaymentId)
  | byId (i : PaymentId)
  | byOrder (orderId : String)
  | byGatewayPayment (gatewayPaymentId : String)
  | search (c : Criteria) (r : PageRequest)
  | byPayer (company : String)
  | byStatus (status : Status)
  | verificationFailed
  | refundable (company : String)
  | all

/-- The payments that a look-up shows. -/
def Look.shown (s : Store) : Look → List Payment
  | record i => (s.record? i).toList
  | byId i => (s.findById i).toList
  | byOrder orderId => (s.findByOrder orderId).toList
  | byGatewayPayment gatewayPaymentId => (s.findByGatewayPayment gatewayPaymentId).toList
  | search c r => (s.search c r).items
  | byPayer company => s.findByPayer company
  | byStatus status => s.findByStatus status
  | verificationFailed => s.findVerificationFailed
  | refundable company => s.findRefundable company
  | all => s.all

theorem hasRecord_of_findById {s : Store} {i : PaymentId} {p : Payment}
    (h : s.findById i = some p) : s.HasRecord p :=
  ⟨i, (findById_eq_some.1 h).1⟩

theorem hasRecord_of_bind_findById {s : Store} {o : Option PaymentId} {p : Payment}
    (h : o.bind s.findById = some p) : s.HasRecord p := by
  obtain ⟨i, -, hp⟩ := Option.bind_eq_some_iff.1 h
  exact hasRecord_of_findById hp

/-- A look-up shows records only. -/
theorem Look.hasRecord {s : Store} {l : Look} {p : Payment} (h : p ∈ l.shown s) :
    s.HasRecord p := by
  cases l with
  | record i => exact ⟨i, Option.mem_toList.1 h⟩
  | byId i => exact hasRecord_of_findById (Option.mem_toList.1 h)
  | byOrder orderId => exact hasRecord_of_bind_findById (Option.mem_toList.1 h)
  | byGatewayPayment id => exact hasRecord_of_bind_findById (Option.mem_toList.1 h)
  | search c r => exact hasRecord_of_mem_search h
  | byPayer company => exact hasRecord_of_mem_findByPayer h
  | byStatus status => exact hasRecord_of_mem_select h
  | verificationFailed => exact hasRecord_of_mem_select h
  | refundable company => exact hasRecord_of_mem_findByPayer (List.mem_filter.1 h).1
  | all => exact Table.exists_get?_of_mem_values ((List.mergeSort_perm _ _).mem_iff.1 h)

end Store

end Payments
