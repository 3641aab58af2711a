import Payments.Proofs.Payment.Completion
import Payments.Proofs.Search.Order
import Payments.Proofs.Store.Served

/-!
# Payments.Proofs.Search.Paging -- the pages of a search are the whole result

A result is cut into pages one after another. Put together again, the pages that it fills are the
result (`Page.flatMap_items`), every page but the last is full, and there is nothing behind the
last. The offset of a page stops growing at `maxCount`, which does no harm to a result that can be
counted: by then it is at its end (`Page.items_ofSorted`).

The result of a search is the payments that meet all criteria, in their order, and no other order
could come out, in whichever order the records are gone through. `Store.pages_partition` puts all of
this together.
-/

namespace Payments

/-! ## Pages -/

namespace Page

variable {α : Type} {all : List α} {size k : Nat}

/-- The saturated offset cuts a result that can be counted where the exact one would. -/
theorem items_ofSorted (h : all.length ≤ maxCount) (r : PageRequest) :
    (ofSorted all r).items = (all.drop (r.page * r.size)).take r.size := by
  show (all.drop (min (r.page * r.size) maxCount)).take r.size = _
  rcases Nat.le_total (r.page * r.size) maxCount with hle | hge
  · rw [Nat.min_eq_left hle]
  · rw [Nat.min_eq_right hge, List.drop_eq_nil_of_le h, List.drop_eq_nil_of_le (Nat.le_trans h hge)]

/-- A result that can be counted fits on one page. -/
theorem items_unpaged (h : all.length ≤ maxCount) : (ofSorted all .unpaged).items = all := by
  have hfirst : PageRequest.unpaged.page * PageRequest.unpaged.size = 0 := Nat.zero_mul _
  rw [items_ofSorted h, hfirst]
  exact List.take_of_length_le h

/-- Pages one after another, the first `n` of them, are the first items. -/
theorem flatMap_take_drop (all : List α) (size n : Nat) :
    ((List.range n).flatMap fun k => (all.drop (k * size)).take size) = all.take (n * size) := by
  induction n with
  | zero => simp
  | succ n ih => simp [List.range_succ, ih, Nat.succ_mul, List.take_add]

/-- All items stand on the pages that are counted, and on no fewer. -/
theorem totalPages_bounds (all : List α) (size : Nat) :
    let n := (ofSorted all (.of 0 size)).totalPages
    all.length ≤ n * max size 1 ∧ n * max size 1 < all.length + max size 1 := by
  intro n
  -- the size is raised to one by the request and once more by the division
  have hpos : 0 < max (max size 1) 1 := by omega
  have hn : n = (all.length + (max (max size 1) 1 - 1)) / max (max size 1) 1 := rfl
  have hlow := Nat.div_mul_le_self (all.length + (max (max size 1) 1 - 1)) (max (max size 1) 1)
  have hhigh := Nat.lt_div_mul_add hpos (a := all.length + (max (max size 1) 1 - 1))
  have hsize : max (max size 1) 1 = max size 1 := by omega
  rw [← hn] at hlow hhigh
  rw [hsize] at hlow hhigh
  omega

/-- The pages that a result fills are the result. -/
theorem flatMap_items (h : all.length ≤ maxCount) (size : Nat) :
    ((List.range (ofSorted all (.of 0 size)).totalPages).flatMap
      fun k => (ofSorted all (.of k size)).items) = all := by
  simp only [items_ofSorted h, PageRequest.of]
  rw [flatMap_take_drop]
  exact List.take_of_length_le (totalPages_bounds all size).1

/-- Behind the last page there is nothing. -/
theorem items_eq_nil (h : all.length ≤ maxCount)
    (hk : (ofSorted all (.of 0 size)).totalPages ≤ k) : (ofSorted all (.of k size)).items = [] := by
  have hle := Nat.mul_le_mul_right (max size 1) hk
  have hall := (totalPages_bounds all size).1
  rw [items_ofSorted h, PageRequest.of, List.drop_eq_nil_of_le (Nat.le_trans hall hle),
    List.take_nil]

/-- Every page but the last is full. -/
theorem length_items (h : all.length ≤ maxCount)
    (hk : k + 1 < (ofSorted all (.of 0 size)).totalPages) :
    (ofSorted all (.of k size)).items.length = max size 1 := by
  have hle : (k + 2) * max size 1 ≤ (ofSorted all (.of 0 size)).totalPages * max size 1 :=
    Nat.mul_le_mul_right _ hk
  have hall := (totalPages_bounds all size).2
  rw [items_ofSorted h, List.length_take, List.length_drop]
  show min (max size 1) (all.length - k * max size 1) = max size 1
  rw [Nat.add_mul] at hle
  omega

end Page

/-! ## Criteria -/

/-- The payment meets every criterion that is set. -/
structure Criteria.IsMetBy (c : Criteria) (p : Payment) : Prop where
  visible : match c.visibility with
    | .live => p.deletion = .none
    | .all => True
    | .deleted => p.deletion ≠ .none
  company : ∀ company ∈ c.company, p.payer.companyId = company ∨ p.payee.companyId = company
  status : ∀ status ∈ c.status, p.status = status
  provider : ∀ provider ∈ c.provider, p.reference.provider = provider
  minAmount : ∀ least ∈ c.minAmount, least ≤ p.ledger.amount
  maxAmount : ∀ greatest ∈ c.maxAmount, p.ledger.amount ≤ greatest
  createdFrom : ∀ start ∈ c.createdFrom, start ≤ p.createdAt
  createdBefore : ∀ stop ∈ c.createdBefore, p.createdAt < stop

theorem Visibility.shows_iff {v : Visibility} {p : Payment} :
    v.shows p = true ↔
      match v with
      | .live => p.deletion = none
      | .all => True
      | .deleted => p.deletion ≠ none := by
  cases v <;> cases h : p.deletion <;> simp [shows, Payment.isDeleted, h]

theorem Criteria.admits_iff {c : Criteria} {p : Payment} : c.admits p = true ↔ c.IsMetBy p := by
  simp only [admits, Bool.and_eq_true, Visibility.shows_iff, Option.all_eq_true, Bool.or_eq_true,
    beq_iff_eq, decide_eq_true_eq]
  constructor
  · rintro ⟨⟨⟨⟨⟨⟨⟨h1, h2⟩, h3⟩, h4⟩, h5⟩, h6⟩, h7⟩, h8⟩
    exact ⟨h1, h2, h3, h4, h5, h6, h7, h8⟩
  · rintro ⟨h1, h2, h3, h4, h5, h6, h7, h8⟩
    exact ⟨⟨⟨⟨⟨⟨⟨h1, h2⟩, h3⟩, h4⟩, h5⟩, h6⟩, h7⟩, h8⟩

/-! ## Searches -/

namespace Store

variable {s : Store}

/-- All payments that meet the criteria, in their order. -/
def found (s : Store) (c : Criteria) : List Payment :=
  Payment.newestFirst (s.records.values.filter c.admits)

theorem search_eq (s : Store) (c : Criteria) (r : PageRequest) :
    s.search c r = Page.ofSorted (s.found c) r := rfl

theorem mem_found {c : Criteria} {p : Payment} :
    p ∈ s.found c ↔ (∃ i, s.record? i = some p) ∧ c.IsMetBy p := by
  rw [found, (Payment.newestFirst_perm _).mem_iff, List.mem_filter, mem_values_iff,
    Criteria.admits_iff]

theorem length_found_le (s : Store) (c : Criteria) : (s.found c).length ≤ s.size := by
  rw [found, (Payment.newestFirst_perm _).length_eq]
  refine Nat.le_trans (List.length_filter_le _ _) (Nat.le_of_eq ?_)
  exact List.length_map _

theorem Filed.nodup_filter (h : s.Filed) (c : Criteria) :
    ((s.records.values.filter c.admits).map Payment.idText).Nodup :=
  h.nodup_idText.sublist ((List.filter_sublist).map _)

theorem Filed.pairwise_found (h : s.Filed) (c : Criteria) :
    (s.found c).Pairwise Payment.Before :=
  Payment.pairwise_newestFirst (h.nodup_filter c)

/-- In whichever order the records are gone through, the same page comes out. -/
theorem Filed.search_eq_of_perm (h : s.Filed) {ps : List Payment} (hps : ps.Perm s.records.values)
    (c : Criteria) (r : PageRequest) : Payment.search ps c r = s.search c r := by
  have hperm : (s.records.values.filter c.admits).Perm (ps.filter c.admits) := hps.symm.filter _
  rw [search_eq, found, Payment.newestFirst_eq_of_perm (h.nodup_filter c) hperm]
  rfl

/-- The pages of a search, whatever requests the store has served, for all criteria and for pages of
any size. Put together, the pages from the first to the last that is counted hold every stored
payment that meets all criteria that are set, once, and no other, the newest first and by identity
among payments created at the same time. Every page tells how many these are; a page behind the last
is empty, however far behind, and every page before the last is full. In whichever order the records
are gone through, the pages are the same. -/
theorem pages_partition (turns : List Turn) (hcount : (served turns).size ≤ maxCount)
    (c : Criteria) (size : Nat) :
    let s := served turns
    let page (k : Nat) := s.search c (.of k size)
    let n := (page 0).totalPages
    let items := (List.range n).flatMap fun k => (page k).items
    (∀ p, p ∈ items ↔ (∃ i, s.record? i = some p) ∧ c.IsMetBy p) ∧
      items.Nodup ∧ items.Pairwise Payment.Before ∧
      (∀ k, (page k).total = items.length ∧ (page k).totalPages = n) ∧
      (∀ k, n ≤ k → (page k).items = []) ∧
      (∀ k, k + 1 < n → (page k).items.length = max size 1) ∧
      ∀ ps, ps.Perm s.records.values → ∀ r, Payment.search ps c r = s.search c r := by
  intro s page n items
  have hfiled : s.Filed := filed_served turns
  have hall : (s.found c).length ≤ maxCount := Nat.le_trans (s.length_found_le c) hcount
  have hitems : items = s.found c := Page.flatMap_items hall size
  have horder : items.Pairwise Payment.Before := hitems ▸ hfiled.pairwise_found c
  refine ⟨?_, Payment.nodup_of_pairwise_before horder, horder, ?_, ?_, ?_, ?_⟩
  · intro p
    rw [hitems]
    exact mem_found
  · intro k
    rw [hitems]
    exact ⟨rfl, rfl⟩
  · exact fun k hk => Page.items_eq_nil hall hk
  · exact fun k hk => Page.length_items hall hk
  · exact fun ps hps r => hfiled.search_eq_of_perm hps c r

/-- Two payments that were created at one moment, in pages of one: the smaller identity comes first,
although it was stored last. -/
theorem pages_partition_of_twins :
    let ten : Decimal := ⟨false, 10, 0, by decide, by decide⟩
    let first := Payment.Sample.created ten
    let second : Payment :=
      { first with orderId := "order-2", reference := { first.reference with paymentId := "pg-2" } }
    let turns : List Turn :=
      [⟨Payment.Sample.noon, ⟨"b", by decide⟩, .save first⟩,
        ⟨Payment.Sample.noon, ⟨"a", by decide⟩, .save second⟩]
    let page (k : Nat) := (served turns).search .none (.of k 0)
    (served turns).size ≤ maxCount ∧ (page 0).totalPages = 2 ∧
      ((page 0).items ++ (page 1).items).map Payment.idText = ["a", "b"] ∧
      ((page 0).items ++ (page 1).items).Pairwise Payment.Before ∧ (page 2).items = [] := by
  intro ten first second turns page
  have hcount : (served turns).size ≤ maxCount := by decide +kernel
  have hkept : (served turns).records.values.reverse.Pairwise fun p q => p.notAfter q = true := by
    decide +kernel
  -- a merge sort does not compute here, so the order is checked and the sort is seen to keep it
  have hfound : (served turns).found .none = (served turns).records.values.reverse :=
    (Payment.newestFirst_eq_of_perm ((filed_served turns).nodup_filter .none)
      (List.reverse_perm _).symm).trans (List.mergeSort_of_pairwise hkept)
  have hpage (k : Nat) : page k = .ofSorted (served turns).records.values.reverse (.of k 0) :=
    congrArg (Page.ofSorted · _) hfound
  have hpages : (page 0).totalPages = 2 := by
    rw [hpage]
    decide +kernel
  obtain ⟨-, -, horder, -, hbehind, -⟩ := pages_partition turns hcount .none 0
  refine ⟨hcount, hpages, ?_, ?_, hbehind 2 (Nat.le_of_eq hpages)⟩
  · rw [hpage, hpage]
    decide +kernel
  · rw [show ((served turns).search .none (.of 0 0)).totalPages = 2 from hpages] at horder
    simpa [page, List.range_succ] using horder

end Store

end Payments
