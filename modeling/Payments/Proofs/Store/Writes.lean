import Payments.Store

/-!
# Payments.Proofs.Store.Writes -- what a write does to the store

A write that succeeds replaces one record, or adds one, and counts its version up; a write that
fails changes nothing. So versions only grow, and `Store.Grows` says so of two stores of which one
came after the other.

Versions are only numbers, but a copy that the store once gave out stays comparable with its record:
`Store.Knows` says that the record is the copy still or has a greater version. A copy with the
version of the record is therefore the record, and that is all that a write has to check
(`update_of_copy`).
-/

namespace Payments

namespace Payment

/-- The payment as a write leaves it: counted up and stamped. -/
def written (p : Payment) (now : Instant) : Payment :=
  { p with version := p.version + 1, updatedAt := some now }

/-- The record that inserting a payment under an identity leaves. -/
def inserted (p : Payment) (i : PaymentId) (now : Instant) : Payment :=
  { p with id := some i }.written now

theorem inserted_of_id {p : Payment} {i : PaymentId} (h : p.id = some i) (now : Instant) :
    p.inserted i now = p.written now := by
  rw [inserted, ← h]

/-- The record that deleting a payment leaves. -/
def removed (p : Payment) (deletedBy : String) (now : Instant) : Payment :=
  (p.markDeleted deletedBy now).written now

theorem touch_of_lt {p : Payment} {now : Instant} (h : p.version + 1 < twoTo 64) :
    p.touch now = .ok (p.written now) := by
  rw [touch, if_pos h]
  rfl

theorem touch_cases (p : Payment) (now : Instant) :
    (∃ f, p.touch now = .error f) ∨ p.touch now = .ok (p.written now) := by
  rcases Nat.lt_or_ge (p.version + 1) (twoTo 64) with h | h
  · exact Or.inr (touch_of_lt h)
  · exact Or.inl ⟨_, by rw [touch, if_neg (Nat.not_lt.2 h)]⟩

/-- `p` stands before `q` in the history of a record: they are one, or `q` has the greater version.
-/
def Precedes (p q : Payment) : Prop :=
  q = p ∨ p.version < q.version

theorem Precedes.refl (p : Payment) : p.Precedes p := Or.inl rfl

theorem Precedes.version_le {p q : Payment} (h : p.Precedes q) : p.version ≤ q.version := by
  rcases h with rfl | h
  · exact Nat.le_refl _
  · exact Nat.le_of_lt h

theorem Precedes.trans {p q r : Payment} (hpq : p.Precedes q) (hqr : q.Precedes r) :
    p.Precedes r := by
  rcases hqr with rfl | hqr
  · exact hpq
  · exact Or.inr (Nat.lt_of_le_of_lt hpq.version_le hqr)

/-- Of one record with one version there is one state only. -/
theorem Precedes.eq_of_version {p q : Payment} (h : p.Precedes q) (hv : q.version = p.version) :
    q = p := by
  rcases h with h | h
  · exact h
  · rw [hv] at h
    exact absurd h (Nat.lt_irrefl _)

end Payment

namespace Store

/-! ## Single writes -/

theorem record?_file (s : Store) (i j : PaymentId) (p : Payment) :
    (s.file i p).record? j = if j = i then some p else s.record? j :=
  Table.get?_put s.records i j p

theorem record?_file_self (s : Store) (i : PaymentId) (p : Payment) :
    (s.file i p).record? i = some p := by
  rw [record?_file, if_pos rfl]

theorem record?_file_of_ne {s : Store} {i j : PaymentId} (p : Payment) (h : j ≠ i) :
    (s.file i p).record? j = s.record? j := by
  rw [record?_file, if_neg h]

theorem record?_reserve (s : Store) (p : Payment) (i j : PaymentId) :
    (s.reserve p i).record? j = s.record? j := rfl

/-- A write is checked against the record of its identity: the versions have to be equal. -/
theorem checkCurrent_eq_ok {s : Store} {p : Payment} {i : PaymentId} :
    s.checkCurrent p = .ok i ↔
      p.id = some i ∧ ∃ q, s.record? i = some q ∧ q.version = p.version := by
  unfold checkCurrent
  constructor
  · intro h
    split at h
    · cases h
    · split at h
      · cases h
      · next hi _ q hq =>
        split at h
        · next hv =>
          cases h
          exact ⟨hi, q, hq, hv⟩
        · cases h
  · rintro ⟨hi, q, hq, hv⟩
    simp only [hi, hq, if_pos hv]

/-- An update fails and changes nothing, or it files the payment over a record of its version. -/
theorem update_cases (s : Store) (p : Payment) (now : Instant) :
    (∃ f, s.update p now = (.error f, s)) ∨
      ∃ i q, p.id = some i ∧ s.record? i = some q ∧ q.version = p.version ∧
        s.update p now = (.ok (p.written now), s.file i (p.written now)) := by
  unfold update
  cases hc : s.checkCurrent p with
  | error f => exact Or.inl ⟨f, rfl⟩
  | ok i =>
    obtain ⟨hi, q, hq, hv⟩ := checkCurrent_eq_ok.1 hc
    rcases p.touch_cases now with ⟨f, ht⟩ | ht
    · exact Or.inl ⟨f, by simp only [ht]⟩
    · exact Or.inr ⟨i, q, hi, hq, hv, by simp only [ht]⟩

theorem update_of_current {s : Store} {p q : Payment} {i : PaymentId} (now : Instant)
    (hi : p.id = some i) (hq : s.record? i = some q) (hv : q.version = p.version)
    (hlt : p.version + 1 < twoTo 64) :
    s.update p now = (.ok (p.written now), s.file i (p.written now)) := by
  have hc : s.checkCurrent p = .ok i := checkCurrent_eq_ok.2 ⟨hi, q, hq, hv⟩
  simp only [update, hc, Payment.touch_of_lt hlt]

theorem update_of_stale {s : Store} {p q : Payment} {i : PaymentId} (now : Instant)
    (hi : p.id = some i) (hq : s.record? i = some q) (hv : q.version ≠ p.version) :
    s.update p now = (refuse (.concurrentModification i.text), s) := by
  have hc : s.checkCurrent p = refuse (.concurrentModification i.text) := by
    simp only [checkCurrent, hi, hq, if_neg hv]
  simp only [update, hc, refuse]

theorem save_of_id {s : Store} {p : Payment} {i : PaymentId} (fresh : PaymentId) (now : Instant)
    (h : p.id = some i) : s.save p fresh now = s.update p now := by
  rw [save, h]
  rfl

theorem save_of_no_id {s : Store} {p : Payment} (fresh : PaymentId) (now : Instant)
    (h : p.id = none) : s.save p fresh now = s.insert p fresh now := by
  rw [save, h]
  rfl

theorem insert_of_taken {s : Store} {p : Payment} (fresh : PaymentId) (now : Instant)
    (hg : s.holdsGatewayPayment p.reference.paymentId = true) :
    s.insert p fresh now = (refuse (.duplicateGatewayPayment p.reference.paymentId), s) := by
  rw [insert, if_pos hg]

/-- A payment that was never written is inserted if its keys are free. -/
theorem insert_of_free {s : Store} {p : Payment} (fresh : PaymentId) (now : Instant)
    (hv : p.version = 0) (hg : s.holdsGatewayPayment p.reference.paymentId = false)
    (ho : s.holdsOrder p.orderId = false) :
    s.insert p fresh now =
      (.ok (p.inserted fresh now), (s.reserve p fresh).file fresh (p.inserted fresh now)) := by
  -- a payment that was never written is far from the last version
  have hlt : { p with id := some fresh }.version + 1 < twoTo 64 := by
    show p.version + 1 < twoTo 64
    rw [hv]
    decide
  simp only [insert, hg, ho, Payment.touch_of_lt hlt, Bool.false_eq_true, if_false]
  rfl

/-- The insertion of a payment that was never written fails and changes nothing, or takes the order
and the gateway payment, which were free, and files the payment. -/
theorem insert_cases (s : Store) {p : Payment} (fresh : PaymentId) (now : Instant)
    (hv : p.version = 0) :
    (∃ f, s.insert p fresh now = (.error f, s)) ∨
      s.holdsGatewayPayment p.reference.paymentId = false ∧ s.holdsOrder p.orderId = false ∧
        s.insert p fresh now =
          (.ok (p.inserted fresh now), (s.reserve p fresh).file fresh (p.inserted fresh now)) := by
  cases hg : s.holdsGatewayPayment p.reference.paymentId with
  | true => exact Or.inl ⟨_, insert_of_taken fresh now hg⟩
  | false =>
    cases ho : s.holdsOrder p.orderId with
    | true => exact Or.inl ⟨_, by rw [insert, hg, ho]; rfl⟩
    | false => exact Or.inr ⟨rfl, rfl, insert_of_free fresh now hv hg ho⟩

/-! ## Stores that come after one another -/

/-- Every record of `s` is still in `s'`, as it was or with a greater version. -/
def Grows (s s' : Store) : Prop :=
  ∀ i p, s.record? i = some p → ∃ q, s'.record? i = some q ∧ p.Precedes q

theorem Grows.refl (s : Store) : s.Grows s := fun _ p hp => ⟨p, hp, .refl p⟩

theorem Grows.trans {s t u : Store} (hst : s.Grows t) (htu : t.Grows u) : s.Grows u := by
  intro i p hp
  obtain ⟨q, hq, hpq⟩ := hst i p hp
  obtain ⟨r, hr, hqr⟩ := htu i q hq
  exact ⟨r, hr, hpq.trans hqr⟩

/-- Filing a payment over nothing, or over a record of a smaller version, lets the store grow. -/
theorem grows_file {s : Store} {i : PaymentId} {p : Payment}
    (h : ∀ q, s.record? i = some q → q.version < p.version) : s.Grows (s.file i p) := by
  intro j q hq
  by_cases hj : j = i
  · subst hj
    exact ⟨p, record?_file_self s j p, Or.inr (h q hq)⟩
  · exact ⟨q, (record?_file_of_ne p hj).trans hq, .refl q⟩

theorem grows_update (s : Store) (p : Payment) (now : Instant) : s.Grows (s.update p now).2 := by
  rcases s.update_cases p now with ⟨f, h⟩ | ⟨i, q, -, hq, hv, h⟩
  · rw [h]
    exact .refl s
  · rw [h]
    apply grows_file
    intro r hr
    rw [hq] at hr
    cases hr
    rw [hv]
    exact Nat.lt_succ_self _

theorem grows_insert {s : Store} {p : Payment} {fresh : PaymentId} (now : Instant)
    (hf : s.record? fresh = none) : s.Grows (s.insert p fresh now).2 := by
  have reserved : s.Grows (s.reserve p fresh) := fun _ q hq => ⟨q, hq, .refl q⟩
  have filed (q : Payment) : (s.reserve p fresh).Grows ((s.reserve p fresh).file fresh q) := by
    apply grows_file
    intro r hr
    rw [record?_reserve, hf] at hr
    cases hr
  unfold insert
  split
  · exact .refl s
  · split
    · exact .refl s
    · split
      · exact reserved.trans (filed _)
      · exact reserved

theorem grows_save {s : Store} {fresh : PaymentId} (p : Payment) (now : Instant)
    (hf : s.record? fresh = none) : s.Grows (s.save p fresh now).2 := by
  unfold save
  split
  · exact s.grows_update p now
  · exact grows_insert now hf

/-- Every record is filed under its own identity. -/
def Filed (s : Store) : Prop :=
  ∀ i p, s.record? i = some p → p.id = some i

theorem Filed.file {s : Store} (h : s.Filed) {i : PaymentId} {p : Payment} (hi : p.id = some i) :
    (s.file i p).Filed := by
  intro j q hq
  rw [record?_file] at hq
  split at hq
  · next hj =>
    cases hq
    rw [hj]
    exact hi
  · exact h j q hq

theorem Filed.update {s : Store} (h : s.Filed) (p : Payment) (now : Instant) :
    (s.update p now).2.Filed := by
  rcases s.update_cases p now with ⟨f, hf⟩ | ⟨i, q, hi, -, -, hok⟩
  · rw [hf]
    exact h
  · rw [hok]
    exact h.file hi

theorem Filed.save {s : Store} (h : s.Filed) (p : Payment) (fresh : PaymentId) (now : Instant) :
    (s.save p fresh now).2.Filed := by
  have reserved : (s.reserve p fresh).Filed := h
  unfold Store.save
  split
  · exact h.update p now
  · unfold insert
    split
    · exact h
    · split
      · exact h
      · rcases Payment.touch_cases { p with id := some fresh } now with ⟨f, hf⟩ | hok
        · rw [hf]
          exact reserved
        · rw [hok]
          exact reserved.file rfl

/-- The store holds a record of the copy's identity that the copy precedes. -/
def Knows (s : Store) (copy : Payment) : Prop :=
  ∃ i q, copy.id = some i ∧ s.record? i = some q ∧ copy.Precedes q

theorem Knows.mono {s t : Store} {copy : Payment} (h : s.Knows copy) (hst : s.Grows t) :
    t.Knows copy := by
  obtain ⟨i, q, hi, hq, hcq⟩ := h
  obtain ⟨r, hr, hqr⟩ := hst i q hq
  exact ⟨i, r, hi, hr, hcq.trans hqr⟩

theorem knows_of_record {s : Store} {p : Payment} {i : PaymentId} (hi : p.id = some i)
    (hp : s.record? i = some p) : s.Knows p :=
  ⟨i, p, hi, hp, .refl p⟩

/-- A write that was prepared on a copy fails and changes nothing, or the copy is the very record
that it replaces. -/
theorem update_of_copy {s : Store} {copy p : Payment} (now : Instant) (hk : s.Knows copy)
    (hid : p.id = copy.id) (hv : p.version = copy.version) :
    (∃ f, s.update p now = (.error f, s)) ∨
      ∃ i, copy.id = some i ∧ s.record? i = some copy ∧
        s.update p now = (.ok (p.written now), s.file i (p.written now)) := by
  rcases s.update_cases p now with h | ⟨i, q, hi, hq, hqv, h⟩
  · exact Or.inl h
  · obtain ⟨j, r, hj, hr, hcr⟩ := hk
    rw [hid, hj] at hi
    cases hi
    rw [hq] at hr
    cases hr
    -- the version that was compared is that of the copy, and a version has one state only
    have hqc : q = copy := hcr.eq_of_version (hqv.trans hv)
    subst hqc
    exact Or.inr ⟨i, hj, hq, h⟩

/-! ## Fresh identities -/

/-- A supply of identities that gives a store none that it holds already. -/
abbrev Supply := (s : Store) → { i : PaymentId // s.record? i = none }

/-- A text longer than every identity in use. -/
def spareText (s : Store) : String :=
  String.ofList ('x' :: s.records.entries.flatMap fun e => e.1.text.toList)

theorem spareText_not_blank (s : Store) : Text.isBlankText s.spareText = false := by
  rw [spareText, Text.isBlankText, String.toList_ofList]
  rfl

theorem record?_spareText (s : Store) :
    s.record? ⟨s.spareText, s.spareText_not_blank⟩ = none := by
  cases h : s.record? ⟨s.spareText, s.spareText_not_blank⟩ with
  | none => rfl
  | some p =>
    -- an identity in use is a part of the spare text, which would then be longer than itself
    obtain ⟨before, rest, he, -⟩ := List.lookup_eq_some_iff.1 h
    have hl : s.spareText.toList =
        'x' :: s.records.entries.flatMap fun e => e.1.text.toList := String.toList_ofList
    rw [he, List.flatMap_append, List.flatMap_cons] at hl
    have hlen := congrArg List.length hl
    rw [List.length_cons, List.length_append, List.length_append] at hlen
    have hlen : s.spareText.toList.length = _ + (s.spareText.toList.length + _) + 1 := hlen
    omega

/-- The supply that gives a text longer than every identity in use. -/
def Supply.spare : Supply := fun s => ⟨⟨s.spareText, s.spareText_not_blank⟩, s.record?_spareText⟩

end Store

end Payments
