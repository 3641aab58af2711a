import Payments.Proofs.Payment.Transition
import Payments.Proofs.Store.Queries
import Payments.Proofs.Store.Writes

/-!
# Payments.Proofs.Store.Indexes -- the indexes of a store and its records

The indexes are written when a payment is inserted and never again, while records are rewritten by
every update and every deletion. They agree all the same, because the keys of a payment, its order
and its gateway payment, are the same in every state of its record.

`Store.Advances` says once what a lawful request can do to a store: nothing, insert a payment under
keys that are free, or rewrite a record without touching its keys. `Store.Indexed` says that each
index lists exactly the records, each under its key, and every advance keeps that. It follows that
a look-up by a key shows what a scan of all records finds (`Indexed.answersByScan`).
-/

namespace Payments

/-! ## Keys -/

/-- The payments have the same keys: the order and the gateway payment. -/
structure Payment.SameKeys (p q : Payment) : Prop where
  orderId : q.orderId = p.orderId
  gatewayPayment : q.reference.paymentId = p.reference.paymentId

namespace Payment.SameKeys

theorem refl (p : Payment) : p.SameKeys p := ⟨rfl, rfl⟩

theorem trans {p q r : Payment} (hpq : p.SameKeys q) (hqr : q.SameKeys r) : p.SameKeys r :=
  ⟨hqr.orderId.trans hpq.orderId, hqr.gatewayPayment.trans hpq.gatewayPayment⟩

end Payment.SameKeys

theorem Payment.SameOrigin.sameKeys {p q : Payment} (h : p.SameOrigin q) : p.SameKeys q :=
  ⟨h.orderId, h.gatewayPaymentId⟩

/-! ## What a request can do to a store -/

namespace Store

/-- What a lawful request does to a store. -/
inductive Advances (s : Store) : Store → Prop where
  | stay : s.Advances s
  /-- A payment with free keys is inserted under a fresh identity. -/
  | insert {p : Payment} {i : PaymentId} (now : Instant) (fresh : s.record? i = none)
      (order : s.holdsOrder p.orderId = false)
      (gatewayPayment : s.holdsGatewayPayment p.reference.paymentId = false) :
      s.Advances ((s.reserve p i).file i (p.inserted i now))
  /-- A record is replaced by a payment with its identity and its keys. -/
  | rewrite {p q : Payment} {i : PaymentId} (record : s.record? i = some q) (id : p.id = some i)
      (keys : q.SameKeys p) : s.Advances (s.file i p)

/-- A payment that was never written is inserted, or refused. -/
theorem advances_insert {s : Store} {p : Payment} {fresh : PaymentId} (now : Instant)
    (hv : p.version = 0) (hf : s.record? fresh = none) :
    s.Advances (s.insert p fresh now).2 := by
  rcases s.insert_cases fresh now hv with ⟨f, h⟩ | ⟨hg, ho, h⟩
  · rw [h]
    exact .stay
  · rw [h]
    exact .insert now hf ho hg

/-- A write that was prepared on a copy, with the keys left alone, replaces the record, or is
refused. -/
theorem advances_update {s : Store} {copy p : Payment} (now : Instant) (hk : s.Knows copy)
    (hid : p.id = copy.id) (hv : p.version = copy.version) (hkeys : copy.SameKeys p) :
    s.Advances (s.update p now).2 := by
  rcases update_of_copy now hk hid hv with ⟨f, h⟩ | ⟨i, hi, hr, h⟩
  · rw [h]
    exact .stay
  · rw [h]
    exact .rewrite hr (hid.trans hi) ⟨hkeys.orderId, hkeys.gatewayPayment⟩

/-- Every record of `s` is still in `s'`, with its keys. -/
def KeepsKeys (s s' : Store) : Prop :=
  ∀ i p, s.record? i = some p → ∃ q, s'.record? i = some q ∧ p.SameKeys q

theorem KeepsKeys.refl (s : Store) : s.KeepsKeys s := fun _ p hp => ⟨p, hp, .refl p⟩

theorem KeepsKeys.trans {s t u : Store} (hst : s.KeepsKeys t) (htu : t.KeepsKeys u) :
    s.KeepsKeys u := by
  intro i p hp
  obtain ⟨q, hq, hpq⟩ := hst i p hp
  obtain ⟨r, hr, hqr⟩ := htu i q hq
  exact ⟨r, hr, hpq.trans hqr⟩

theorem Advances.keepsKeys {s s' : Store} (h : s.Advances s') : s.KeepsKeys s' := by
  intro j r hr
  cases h with
  | stay => exact ⟨r, hr, .refl r⟩
  | @insert p i now fresh _ _ =>
    have hj : j ≠ i := by
      rintro rfl
      simp [fresh] at hr
    exact ⟨r, (record?_file_of_ne _ hj).trans hr, .refl r⟩
  | @rewrite p q i record id keys =>
    by_cases hj : j = i
    · subst hj
      cases record.symm.trans hr
      exact ⟨p, record?_file_self s j p, keys⟩
    · exact ⟨r, (record?_file_of_ne p hj).trans hr, .refl r⟩

/-! ## Indexes -/

/-- The index lists the records, each under its key. -/
def Lists (records : PaymentId → Option Payment) (key : Payment → String)
    (index : Table String PaymentId) : Prop :=
  ∀ k i, index.get? k = some i ↔ ∃ p, records i = some p ∧ key p = k

namespace Lists

variable {records : PaymentId → Option Payment} {key : Payment → String}
  {index : Table String PaymentId}

/-- No two records have one key. -/
theorem unique (h : Lists records key index) {i j : PaymentId} {p q : Payment}
    (hp : records i = some p) (hq : records j = some q) (hkey : key p = key q) : i = j := by
  have hi : index.get? (key p) = some i := (h (key p) i).2 ⟨p, hp, rfl⟩
  have hj : index.get? (key p) = some j := (h (key p) j).2 ⟨q, hq, hkey.symm⟩
  exact Option.some.inj (hi.symm.trans hj)

theorem holds_iff (h : Lists records key index) (k : String) :
    index.holds k = true ↔ ∃ i p, records i = some p ∧ key p = k := by
  rw [Table.holds, Option.isSome_iff_exists]
  exact exists_congr fun i => h k i

/-- A key that is taken stays taken. -/
theorem holds_of_keepsKeys {s s' : Store} {index' : Table String PaymentId}
    (h : Lists s.record? key index) (h' : Lists s'.record? key index') (hs : s.KeepsKeys s')
    (hkey : ∀ p q, p.SameKeys q → key q = key p) {k : String} (hk : index.holds k = true) :
    index'.holds k = true := by
  obtain ⟨i, p, hp, hpk⟩ := (h.holds_iff k).1 hk
  obtain ⟨q, hq, hpq⟩ := hs i p hp
  exact (h'.holds_iff k).2 ⟨i, q, hq, (hkey p q hpq).trans hpk⟩

theorem empty : Lists (fun _ => none) key ∅ := by
  intro k i
  simp

/-- An index goes on listing the records when one is added under a key that is free. -/
theorem put (h : Lists records key index) {i : PaymentId} {p : Payment} (hi : records i = none)
    (hfree : index.holds (key p) = false) :
    Lists (fun j => if j = i then some p else records j) key (index.put (key p) i) := by
  intro k j
  have hnone : index.get? (key p) = none := by simpa [Table.holds] using hfree
  rw [Table.get?_put]
  by_cases hk : k = key p
  · subst hk
    rw [if_pos rfl]
    constructor
    · rintro ⟨rfl⟩
      exact ⟨p, if_pos rfl, rfl⟩
    · rintro ⟨q, hq, hqk⟩
      by_cases hj : j = i
      · rw [hj]
      · -- nothing but the new record can have the key, which was free
        simp only [if_neg hj] at hq
        have hlisted := (h (key p) j).2 ⟨q, hq, hqk⟩
        rw [hnone] at hlisted
        cases hlisted
  · rw [if_neg hk, h k j]
    by_cases hj : j = i
    · subst hj
      simp only [hi, if_true]
      constructor
      · rintro ⟨q, hq, -⟩
        cases hq
      · rintro ⟨q, hq, hqk⟩
        cases hq
        exact absurd hqk.symm hk
    · simp only [if_neg hj]

/-- An index goes on listing the records when one is replaced by another with its key. -/
theorem replace (h : Lists records key index) {i : PaymentId} {p q : Payment}
    (hq : records i = some q) (hkey : key p = key q) :
    Lists (fun j => if j = i then some p else records j) key index := by
  intro k j
  rw [h k j]
  by_cases hj : j = i
  · subst hj
    simp only [hq, if_true]
    constructor
    · rintro ⟨r, hr, hrk⟩
      cases hr
      exact ⟨p, rfl, hkey.trans hrk⟩
    · rintro ⟨r, hr, hrk⟩
      cases hr
      exact ⟨q, rfl, hkey.symm.trans hrk⟩
  · simp only [if_neg hj]

end Lists

/-- Every record is filed under its own identity, and both indexes list the records. -/
structure Indexed (s : Store) : Prop where
  filed : s.Filed
  order : Lists s.record? Payment.orderId s.byOrder
  gatewayPayment : Lists s.record? (fun p => p.reference.paymentId) s.byGatewayPayment

theorem indexed_empty : (∅ : Store).Indexed where
  filed := fun _ _ h => (nomatch h)
  order := Lists.empty
  gatewayPayment := Lists.empty

variable {s s' : Store}

theorem Indexed.advance (h : s.Indexed) (hs : s.Advances s') : s'.Indexed := by
  cases hs with
  | stay => exact h
  | @insert p i now fresh order gatewayPayment =>
    have hrecords : ((s.reserve p i).file i (p.inserted i now)).record? =
        fun j => if j = i then some (p.inserted i now) else s.record? j :=
      funext fun j => record?_file (s.reserve p i) i j _
    refine ⟨Filed.file (s := s.reserve p i) h.filed rfl, ?_, ?_⟩
    · rw [hrecords]
      exact h.order.put (p := p.inserted i now) fresh order
    · rw [hrecords]
      exact h.gatewayPayment.put (p := p.inserted i now) fresh gatewayPayment
  | @rewrite p q i record id keys =>
    have hrecords : (s.file i p).record? = fun j => if j = i then some p else s.record? j :=
      funext fun j => record?_file s i j p
    refine ⟨h.filed.file id, ?_, ?_⟩
    · rw [hrecords]
      exact h.order.replace record keys.orderId
    · rw [hrecords]
      exact h.gatewayPayment.replace record keys.gatewayPayment

/-- The store knows the identity of the payment, and has its keys on record. -/
def HasOnRecord (s : Store) (p : Payment) : Prop :=
  ∃ i q, p.id = some i ∧ s.record? i = some q ∧ p.SameKeys q

theorem HasOnRecord.mono {p : Payment} (h : s.HasOnRecord p) (hs : s.KeepsKeys s') :
    s'.HasOnRecord p := by
  obtain ⟨i, q, hi, hq, hpq⟩ := h
  obtain ⟨r, hr, hqr⟩ := hs i q hq
  exact ⟨i, r, hi, hr, hpq.trans hqr⟩

/-- A save files a payment with the keys of the one saved, or it fails; if it is refused for a
gateway payment, that is the one of the payment. -/
theorem save_cases (s : Store) (p : Payment) (fresh : PaymentId) (now : Instant) :
    (∃ i q s', s.save p fresh now = (.ok q, file s' i q) ∧ q.id = some i ∧ p.SameKeys q) ∨
      ∃ f s', s.save p fresh now = (.error f, s') ∧
        ∀ g, f = .refused (.duplicateGatewayPayment g) → g = p.reference.paymentId := by
  cases hid : p.id with
  | some i =>
    rw [save_of_id fresh now hid]
    simp only [update, checkCurrent, hid]
    cases s.record? i with
    | none => exact Or.inr ⟨_, _, rfl, fun g hg => by cases hg⟩
    | some stored =>
      by_cases hv : stored.version = p.version
      · simp only [if_pos hv]
        by_cases hlt : p.version + 1 < twoTo 64
        · rw [Payment.touch_of_lt hlt]
          exact Or.inl ⟨_, _, _, rfl, hid, ⟨rfl, rfl⟩⟩
        · rw [Payment.touch, if_neg hlt]
          exact Or.inr ⟨_, _, rfl, fun g hg => by cases hg⟩
      · simp only [if_neg hv]
        exact Or.inr ⟨_, _, rfl, fun g hg => by cases hg⟩
  | none =>
    rw [save_of_no_id fresh now hid, insert]
    cases s.holdsGatewayPayment p.reference.paymentId with
    | true =>
      refine Or.inr ⟨_, _, rfl, ?_⟩
      rintro g ⟨⟩
      rfl
    | false =>
      cases s.holdsOrder p.orderId with
      | true => exact Or.inr ⟨_, _, rfl, fun g hg => by cases hg⟩
      | false =>
        simp only [Bool.false_eq_true, if_false]
        by_cases hlt : { p with id := some fresh }.version + 1 < twoTo 64
        · rw [Payment.touch_of_lt hlt]
          exact Or.inl ⟨_, _, _, rfl, rfl, ⟨rfl, rfl⟩⟩
        · rw [Payment.touch, if_neg hlt]
          exact Or.inr ⟨_, _, rfl, fun g hg => by cases hg⟩

/-- Payments on record that are one to the gateway are one to the store. -/
theorem Indexed.id_eq (h : s.Indexed) {p q : Payment} (hp : s.HasOnRecord p)
    (hq : s.HasOnRecord q) (hkey : p.reference.paymentId = q.reference.paymentId) :
    p.id = q.id := by
  obtain ⟨i, p', hi, hp', hpp'⟩ := hp
  obtain ⟨j, q', hj, hq', hqq'⟩ := hq
  have hkey' : p'.reference.paymentId = q'.reference.paymentId :=
    hpp'.gatewayPayment.trans (hkey.trans hqq'.gatewayPayment.symm)
  rw [hi, hj, h.gatewayPayment.unique hp' hq' hkey']

/-! ## Scans -/

/-- The stored payments, deleted ones included, that meet a condition. -/
def scan (s : Store) (P : Payment → Bool) : List Payment :=
  s.records.values.filter P

theorem mem_values_iff {p : Payment} : p ∈ s.records.values ↔ ∃ i, s.record? i = some p := by
  constructor
  · exact Table.exists_get?_of_mem_values
  · rintro ⟨i, hi⟩
    obtain ⟨before, rest, he, -⟩ := List.lookup_eq_some_iff.1 hi
    refine List.mem_map.2 ⟨(i, p), ?_, rfl⟩
    rw [he]
    exact List.mem_append_right _ List.mem_cons_self

/-- Records with a key that no two of them share are pairwise different in it. -/
theorem nodup_map_values {α : Type} {key : Payment → α}
    (hkey : ∀ i j p q, s.record? i = some p → s.record? j = some q → key p = key q → i = j) :
    (s.records.values.map key).Nodup := by
  have hfiled : ∀ e ∈ s.records.entries, s.record? e.1 = some e.2 := fun e he =>
    Table.lookup_of_mem s.records.nodup he
  have hpairs : s.records.entries.Pairwise fun d e => d.1 ≠ e.1 :=
    List.pairwise_map.1 s.records.nodup
  rw [Table.values, List.map_map]
  refine List.pairwise_map.2 (hpairs.imp_of_mem ?_)
  intro d e hd he hne hde
  exact hne (hkey d.1 e.1 d.2 e.2 (hfiled d hd) (hfiled e he) hde)

theorem Indexed.nodup_values (h : s.Indexed) : s.records.values.Nodup := by
  have hkey : (s.records.values.map id).Nodup := nodup_map_values fun i j p q hp hq hpq => by
    cases hpq
    exact Option.some.inj ((h.filed i p hp).symm.trans (h.filed j p hq))
  rwa [List.map_id] at hkey

/-- A look-up agrees with a scan if it shows exactly the stored payments that the scan looks for. -/
theorem Indexed.toList_eq_scan (h : s.Indexed) {shown : Option Payment} {P : Payment → Bool}
    (hshown : ∀ p, shown = some p ↔ (∃ i, s.record? i = some p) ∧ P p = true) :
    shown.toList = s.scan P := by
  have hmem (p : Payment) : p ∈ s.scan P ↔ shown = some p := by
    rw [scan, List.mem_filter, mem_values_iff, hshown]
  have hnodup : (s.scan P).Nodup := h.nodup_values.filter P
  cases shown with
  | none =>
    have hnil : s.scan P = [] := List.eq_nil_iff_forall_not_mem.2 fun p hp => by
      simpa using (hmem p).1 hp
    rw [hnil]
    rfl
  | some p =>
    -- every member of the scan is `p`, and none occurs twice
    have hperm : (s.scan P).Perm [p] :=
      (List.perm_ext_iff_of_nodup hnodup (List.pairwise_singleton _ p)).2 fun q => by
        rw [hmem q, List.mem_singleton, Option.some.injEq, eq_comm]
    exact (List.perm_singleton.1 hperm).symm

/-- What a look-up by a key shows, if the index lists the records. -/
theorem Lists.bind_findById {key : Payment → String} {index : Table String PaymentId}
    (h : Lists s.record? key index) {k : String} {p : Payment} :
    (index.get? k).bind s.findById = some p ↔
      (∃ i, s.record? i = some p) ∧ (key p == k && !p.isDeleted) = true := by
  simp only [Option.bind_eq_some_iff, findById_eq_some, Bool.and_eq_true, beq_iff_eq,
    Bool.not_eq_true']
  constructor
  · rintro ⟨i, hi, hp, hd⟩
    obtain ⟨q, hq, hqk⟩ := (h k i).1 hi
    cases hp.symm.trans hq
    exact ⟨⟨i, hp⟩, hqk, hd⟩
  · rintro ⟨⟨i, hp⟩, hk, hd⟩
    exact ⟨i, (h k i).2 ⟨p, hp, hk⟩, hp, hd⟩

/-- Whether a key is taken, if the index lists the records. -/
theorem Lists.holds_eq_any {key : Payment → String} {index : Table String PaymentId}
    (h : Lists s.record? key index) (k : String) :
    index.holds k = s.records.values.any fun p => key p == k := by
  rw [Bool.eq_iff_iff, h.holds_iff, List.any_eq_true]
  constructor
  · rintro ⟨i, p, hp, hk⟩
    exact ⟨p, mem_values_iff.2 ⟨i, hp⟩, beq_iff_eq.2 hk⟩
  · rintro ⟨p, hp, hk⟩
    obtain ⟨i, hi⟩ := mem_values_iff.1 hp
    exact ⟨i, p, hi, beq_iff_eq.1 hk⟩

/-- The store answers as a scan of all records does: look-ups by a key show the one payment with the
key that has not been deleted, and a key counts as taken by any payment, deleted or not. -/
structure AnswersByScan (s : Store) : Prop where
  byId : ∀ i, (s.findById i).toList = s.scan fun p => p.id == some i && !p.isDeleted
  byOrder : ∀ o, (s.findByOrder o).toList = s.scan fun p => p.orderId == o && !p.isDeleted
  byGatewayPayment : ∀ g,
    (s.findByGatewayPayment g).toList = s.scan fun p => p.reference.paymentId == g && !p.isDeleted
  holdsOrder : ∀ o, s.holdsOrder o = s.records.values.any fun p => p.orderId == o
  holdsGatewayPayment : ∀ g,
    s.holdsGatewayPayment g = s.records.values.any fun p => p.reference.paymentId == g

theorem Indexed.answersByScan (h : s.Indexed) : s.AnswersByScan where
  byId := by
    intro i
    apply h.toList_eq_scan
    intro p
    rw [findById_eq_some, Bool.and_eq_true, beq_iff_eq, Bool.not_eq_true']
    constructor
    · rintro ⟨hp, hd⟩
      exact ⟨⟨i, hp⟩, h.filed i p hp, hd⟩
    · rintro ⟨⟨j, hp⟩, hi, hd⟩
      cases (h.filed j p hp).symm.trans hi
      exact ⟨hp, hd⟩
  byOrder := fun _ => h.toList_eq_scan fun _ => h.order.bind_findById
  byGatewayPayment := fun _ => h.toList_eq_scan fun _ => h.gatewayPayment.bind_findById
  holdsOrder := h.order.holds_eq_any
  holdsGatewayPayment := h.gatewayPayment.holds_eq_any

end Store

end Payments
