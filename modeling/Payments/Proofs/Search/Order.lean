import Mathlib.Data.List.Nodup
import Payments.Search

/-!
# Payments.Proofs.Search.Order -- the order of the payments that a search shows

A search puts the newest payment first; among payments that were created at the same time the one
with the smaller identity comes first (`Payment.Before`). Of payments with different identities one
always stands before the other, so there is one such order only: what is sorted does not depend on
how it was ordered before (`Payment.newestFirst_eq_of_perm`).

Two payments that have not been stored yet have no identity, so nothing but their places in a list
could tell them apart; hence all results ask for different identities.
-/

namespace Payments

namespace Payment

/-! ## The order -/

/-- `p` stands before `q`: it was created later, or at the same time and its identity is the smaller
one. -/
def Before (p q : Payment) : Prop :=
  q.createdAt < p.createdAt ∨ (p.createdAt = q.createdAt ∧ p.idText < q.idText)

variable {p q r : Payment} {ps qs : List Payment}

theorem before_irrefl (p : Payment) : ¬ p.Before p := by
  rintro (h | ⟨-, h⟩)
  · exact Int.lt_irrefl _ h
  · exact String.lt_irrefl _ h

/-- The comparison that sorts, with times as the numbers that they are compared by. -/
theorem notAfter_iff :
    p.notAfter q = true ↔
      q.createdAt.rank < p.createdAt.rank ∨
        (p.createdAt.rank = q.createdAt.rank ∧ p.idText ≤ q.idText) := by
  have hrank : p.createdAt = q.createdAt ↔ p.createdAt.rank = q.createdAt.rank :=
    ⟨congrArg Instant.rank, Instant.rank_injective⟩
  simp only [notAfter, Bool.or_eq_true, Bool.and_eq_true, decide_eq_true_eq, Bool.not_eq_true',
    decide_eq_false_iff_not, String.not_lt, Instant.lt_iff_rank, hrank]

theorem notAfter_trans (hpq : p.notAfter q = true) (hqr : q.notAfter r = true) :
    p.notAfter r = true := by
  rw [notAfter_iff] at *
  rcases hpq with hpq | ⟨hpq, hid⟩
  · left
    omega
  · rcases hqr with hqr | ⟨hqr, hid'⟩
    · left
      omega
    · right
      exact ⟨hpq.trans hqr, String.le_trans hid hid'⟩

theorem notAfter_total (p q : Payment) : (p.notAfter q || q.notAfter p) = true := by
  rw [Bool.or_eq_true, notAfter_iff, notAfter_iff]
  rcases Int.lt_trichotomy p.createdAt.rank q.createdAt.rank with h | h | h
  · exact .inr (.inl h)
  · rcases String.le_total p.idText q.idText with hid | hid
    · exact .inl (.inr ⟨h, hid⟩)
    · exact .inr (.inr ⟨h.symm, hid⟩)
  · exact .inl (.inl h)

/-- Payments of which neither stands after the other have one identity. -/
theorem idText_eq_of_notAfter (hpq : p.notAfter q = true) (hqp : q.notAfter p = true) :
    p.idText = q.idText := by
  rw [notAfter_iff] at *
  rcases hpq with hpq | ⟨hpq, hid⟩
  · rcases hqp with hqp | ⟨hqp, -⟩ <;> omega
  · rcases hqp with hqp | ⟨-, hid'⟩
    · omega
    · exact String.le_antisymm hid hid'

/-- Of payments with different identities, the one that does not stand after the other stands before
it. -/
theorem before_of_notAfter (h : p.notAfter q = true) (hne : p.idText ≠ q.idText) : p.Before q := by
  rcases notAfter_iff.1 h with hlt | ⟨heq, hle⟩
  · exact .inl hlt
  · refine .inr ⟨Instant.rank_injective heq, ?_⟩
    exact String.not_le.1 fun hge => hne (String.le_antisymm hle hge)

/-! ## Sorted payments -/

theorem newestFirst_perm (ps : List Payment) : (newestFirst ps).Perm ps :=
  List.mergeSort_perm ps _

theorem pairwise_notAfter_newestFirst (ps : List Payment) :
    (newestFirst ps).Pairwise fun p q => p.notAfter q = true :=
  List.pairwise_mergeSort (fun p q r => @notAfter_trans p q r) notAfter_total ps

/-- Payments with different identities are put into the order. -/
theorem pairwise_newestFirst (hn : (ps.map idText).Nodup) : (newestFirst ps).Pairwise Before := by
  have hdistinct : (newestFirst ps).Pairwise fun p q => p.idText ≠ q.idText :=
    List.pairwise_map.1 (((newestFirst_perm ps).map idText).nodup_iff.2 hn)
  exact ((pairwise_notAfter_newestFirst ps).and hdistinct).imp fun h => before_of_notAfter h.1 h.2

/-- Payments in the order occur once each. -/
theorem nodup_of_pairwise_before (h : ps.Pairwise Before) : ps.Nodup :=
  h.imp fun {p q} hpq => by
    rintro rfl
    exact before_irrefl p hpq

/-- How payments were ordered before does not matter. -/
theorem newestFirst_eq_of_perm (hn : (ps.map idText).Nodup) (h : ps.Perm qs) :
    newestFirst ps = newestFirst qs := by
  have hperm : (newestFirst ps).Perm (newestFirst qs) :=
    (newestFirst_perm ps).trans (h.trans (newestFirst_perm qs).symm)
  -- payments that the comparison does not tell apart have one identity, so they are one payment
  refine List.Perm.eq_of_pairwise ?_ (pairwise_notAfter_newestFirst ps)
    (pairwise_notAfter_newestFirst qs) hperm
  intro p q hp hq hpq hqp
  have hp' : p ∈ ps := (newestFirst_perm ps).mem_iff.1 hp
  have hq' : q ∈ ps := h.mem_iff.2 ((newestFirst_perm qs).mem_iff.1 hq)
  exact List.inj_on_of_nodup_map hn hp' hq' (idText_eq_of_notAfter hpq hqp)

end Payment

end Payments
