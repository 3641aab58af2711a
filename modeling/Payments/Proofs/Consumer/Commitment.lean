import Mathlib.Data.List.Induction
import Payments.Proofs.Consumer.Redelivery

/-!
# Payments.Proofs.Consumer.Commitment -- what the committed offset says about deliveries

A consumer keeps one committed offset, the greatest that was acknowledged, and a transport that goes
on from there hands over only what comes after it. Deliveries are handled in the order of their
offsets, so the committed offset is that of the last delivery that was acknowledged
(`Desk.last_committed`).

It follows that a delivery that failed is handed over again just as long as no later one succeeds:
the next success carries the committed offset past it, and then it is lost
(`Desk.covers_iff_followed`).
-/

namespace Payments

open Service
open Desk (Handled)

namespace CommittedOffset

/-- The progress after a delivery was handled. One that failed gives no acknowledgement. -/
def note (c : CommittedOffset) (y : Handled) : CommittedOffset :=
  match y.outcome with
  | .ok (_, acknowledgement) => c.acknowledge acknowledgement
  | .error _ => c

/-- A transport that goes on from the progress does not hand the offset over. -/
def Covers (c : CommittedOffset) (offset : Int) : Prop :=
  ∃ last ∈ c.lastCommitted?, offset ≤ last

instance (c : CommittedOffset) (offset : Int) : Decidable (c.Covers offset) :=
  inferInstanceAs (Decidable (∃ last ∈ c.lastCommitted?, offset ≤ last))

theorem covers_iff {c : CommittedOffset} {offset : Int} (h : 0 ≤ offset) :
    c.Covers offset ↔ offset ≤ c.last := by
  simp only [Covers, lastCommitted?]
  split
  · simp
    omega
  · simp

theorem lastCommitted?_eq_some {c : CommittedOffset} {last : Int} (h : 0 ≤ last) :
    c.lastCommitted? = some last ↔ c.last = last := by
  simp only [lastCommitted?]
  split
  · simp
    omega
  · simp

end CommittedOffset

namespace Desk

/-- Whether the delivery was acknowledged. -/
def Handled.acknowledged (y : Handled) : Bool :=
  y.outcome.isOk

/-- The acknowledgement of the delivery, if it was given, names the delivery itself. -/
def Handled.IsFaithful (y : Handled) : Prop :=
  ∀ p acknowledgement, y.outcome = .ok (p, acknowledgement) →
    acknowledgement = y.delivery.acknowledgement

/-- The progress after deliveries were handled, from the first on. -/
def committed (ys : List Handled) : CommittedOffset :=
  ys.foldl CommittedOffset.note .start

/-! ## One delivery -/

variable {y : Handled} {c : CommittedOffset}

theorem last_note_of_acknowledged (hy : y.IsFaithful) (h : y.acknowledged = true) :
    (c.note y).last = max c.last y.delivery.offset := by
  obtain ⟨delivery, outcome⟩ := y
  cases outcome with
  | error e => cases h
  | ok result =>
    obtain ⟨p, acknowledgement⟩ := result
    obtain rfl : acknowledgement = delivery.acknowledgement := hy p _ rfl
    rfl

theorem note_of_failed (h : y.acknowledged = false) : c.note y = c := by
  obtain ⟨delivery, outcome⟩ := y
  cases outcome with
  | error e => rfl
  | ok result => cases h

/-- The acknowledgement that is given for a delivery is its own. -/
theorem isFaithful_handle (d : Desk) (x : Handling) :
    Handled.IsFaithful ⟨x.delivery, (d.handle x).1⟩ := by
  intro p acknowledgement h
  rw [handle_eq] at h
  simp only at h
  cases hresult : (serve (refund x.request.paymentId x.request.orderId
      x.request.reason).run x.cues d).1 with
  | error f =>
    rw [hresult] at h
    cases h
  | ok q =>
    rw [hresult] at h
    cases h
    rfl

/-! ## One delivery after another -/

theorem isFaithful_of_mem_handleAll (d : Desk) (xs : List Handling) :
    ∀ y ∈ (handleAll xs d).1, y.IsFaithful := by
  induction xs generalizing d with
  | nil => exact fun y hy => absurd hy List.not_mem_nil
  | cons x xs ih =>
    intro y hy
    rcases List.mem_cons.1 hy with rfl | hy
    · exact isFaithful_handle d x
    · exact ih _ y hy

theorem map_delivery_handleAll (xs : List Handling) (d : Desk) :
    (handleAll xs d).1.map Handled.delivery = xs.map Handling.delivery := by
  induction xs generalizing d with
  | nil => rfl
  | cons x xs ih => exact congrArg (x.delivery :: ·) (ih (d.handle x).2)

/-- When offsets grow from one delivery to the next, the committed offset is that of the last
delivery that was acknowledged. -/
theorem last_committed {ys : List Handled} (hfaithful : ∀ y ∈ ys, y.IsFaithful)
    (hstart : ∀ y ∈ ys, 0 ≤ y.delivery.offset)
    (horder : ys.Pairwise (·.delivery.offset < ·.delivery.offset)) :
    (committed ys).last =
      ((ys.filter Handled.acknowledged).getLast?.map (·.delivery.offset)).getD (-1) := by
  induction ys using List.reverseRecOn with
  | nil => rfl
  | append_singleton ys y ih =>
    obtain ⟨hbefore, -, hlast⟩ := List.pairwise_append.1 horder
    have hys := ih (fun z hz => hfaithful z (by simp [hz])) (fun z hz => hstart z (by simp [hz]))
      hbefore
    have hstep : committed (ys ++ [y]) = (committed ys).note y := by
      simp [committed]
    rw [hstep]
    cases hy : y.acknowledged with
    | false =>
      rw [note_of_failed hy, hys, List.filter_append, List.filter_cons_of_neg (by simp [hy])]
      simp
    | true =>
      rw [last_note_of_acknowledged (hfaithful y (by simp)) hy, hys, List.filter_append,
        List.filter_cons_of_pos hy]
      have hpos := hstart y (by simp)
      cases hz : (ys.filter Handled.acknowledged).getLast? with
      | none =>
        simp
        omega
      | some z =>
        have hlt := hlast z (List.mem_filter.1 (List.mem_of_getLast? hz)).1 y (by simp)
        simp
        omega

/-- A delivery is covered just if it was acknowledged or a later one was. -/
theorem covers_committed {before after : List Handled} {y : Handled}
    (hfaithful : ∀ z ∈ before ++ y :: after, z.IsFaithful)
    (hstart : ∀ z ∈ before ++ y :: after, 0 ≤ z.delivery.offset)
    (horder : (before ++ y :: after).Pairwise (·.delivery.offset < ·.delivery.offset)) :
    (committed (before ++ y :: after)).Covers y.delivery.offset ↔
      ∃ z ∈ y :: after, z.acknowledged = true := by
  have hy : 0 ≤ y.delivery.offset := hstart y (by simp)
  obtain ⟨-, hrest, hbetween⟩ := List.pairwise_append.1 horder
  rw [CommittedOffset.covers_iff hy, last_committed hfaithful hstart horder, List.filter_append,
    List.getLast?_append]
  cases hlast : ((y :: after).filter Handled.acknowledged).getLast? with
  | some w =>
    obtain ⟨hw, hacknowledged⟩ := List.mem_filter.1 (List.mem_of_getLast? hlast)
    have hle : y.delivery.offset ≤ w.delivery.offset := by
      rcases List.mem_cons.1 hw with rfl | hw
      · exact Int.le_refl _
      · exact Int.le_of_lt (List.rel_of_pairwise_cons hrest hw)
    exact iff_of_true hle ⟨w, hw, hacknowledged⟩
  | none =>
    have hnone : ¬ ∃ z ∈ y :: after, z.acknowledged = true := by
      rintro ⟨z, hz, hacknowledged⟩
      have hmem : z ∈ (y :: after).filter Handled.acknowledged :=
        List.mem_filter.2 ⟨hz, hacknowledged⟩
      rw [List.getLast?_eq_none_iff.1 hlast] at hmem
      exact List.not_mem_nil hmem
    refine iff_of_false ?_ hnone
    cases hbefore : (before.filter Handled.acknowledged).getLast? with
    | none =>
      simp
      omega
    | some w =>
      have hlt := hbetween w (List.mem_filter.1 (List.mem_of_getLast? hbefore)).1 y (by simp)
      simp
      omega

/-- Deliveries whose offsets grow are handled one after another, on any desk and in any
surroundings. The committed offset is that of the last delivery that was acknowledged. So a delivery
that failed is covered, and will not be handed over again, just if a later one was acknowledged. -/
theorem covers_iff_followed (d : Desk) (xs : List Handling)
    (hstart : ∀ x ∈ xs, 0 ≤ x.delivery.offset)
    (horder : xs.Pairwise (·.delivery.offset < ·.delivery.offset)) :
    (committed (handleAll xs d).1).lastCommitted? =
        ((handleAll xs d).1.filter Handled.acknowledged).getLast?.map (·.delivery.offset) ∧
      ∀ before y after, (handleAll xs d).1 = before ++ y :: after → y.acknowledged = false →
        ((committed (handleAll xs d).1).Covers y.delivery.offset ↔
          ∃ z ∈ after, z.acknowledged = true) := by
  have hfaithful := isFaithful_of_mem_handleAll d xs
  -- what is known of the deliveries holds of their results
  have hdeliveries := map_delivery_handleAll xs d
  have hstart : ∀ y ∈ (handleAll xs d).1, 0 ≤ y.delivery.offset := by
    intro y hy
    have hmem : y.delivery ∈ xs.map Handling.delivery := hdeliveries ▸ List.mem_map_of_mem hy
    obtain ⟨x, hx, heq⟩ := List.mem_map.1 hmem
    exact heq ▸ hstart x hx
  have horder : (handleAll xs d).1.Pairwise (·.delivery.offset < ·.delivery.offset) := by
    have hmap : (xs.map Handling.delivery).Pairwise (·.offset < ·.offset) :=
      List.pairwise_map.2 horder
    rw [← hdeliveries, List.pairwise_map] at hmap
    exact hmap
  refine ⟨?last, ?covered⟩
  case last =>
    have hlast := last_committed hfaithful hstart horder
    cases hz : ((handleAll xs d).1.filter Handled.acknowledged).getLast? with
    | none =>
      rw [hz] at hlast
      exact if_pos hlast
    | some z =>
      rw [hz] at hlast
      have hz := hstart z (List.mem_filter.1 (List.mem_of_getLast? hz)).1
      exact (CommittedOffset.lastCommitted?_eq_some hz).2 hlast
  case covered =>
    intro before y after hsplit hfailed
    rw [hsplit] at hfaithful hstart horder ⊢
    rw [covers_committed hfaithful hstart horder]
    simp [hfailed]

/-- A request to refund a payment that nobody knows. -/
def strayDelivery (offset : Int) : Handling where
  delivery := ⟨0, offset, ⟨"nobody", "order-1", "changed my mind", none⟩⟩
  cues _ := Sample.cue

/-- The first delivery fails, the second is acknowledged, and by that the first is covered. -/
theorem covers_iff_followed_sample :
    ∃ y z, (handleAll [strayDelivery 1, sampleDelivery 2] sampleDesk).1 = [y, z] ∧
      y.acknowledged = false ∧ z.acknowledged = true ∧ y.delivery.offset = 1 ∧
      (committed (handleAll [strayDelivery 1, sampleDelivery 2] sampleDesk).1).Covers 1 := by
  obtain ⟨-, hcovers⟩ := covers_iff_followed sampleDesk
    [strayDelivery 1, sampleDelivery 2] (by decide) (by decide)
  exact ⟨_, _, rfl, by decide, by decide, rfl,
    (hcovers [] _ _ rfl (by decide)).2 ⟨_, List.mem_singleton_self _, by decide⟩⟩

/-- Before the second delivery the first one would have been handed over again; after it the
transport goes on behind both. -/
theorem failed_delivery_is_covered :
    (committed (handleAll [strayDelivery 1] sampleDesk).1).lastCommitted? = none ∧
      (committed (handleAll [strayDelivery 1, sampleDelivery 2] sampleDesk).1).lastCommitted? =
        some 2 ∧
      (handleAll [strayDelivery 1, sampleDelivery 2] sampleDesk).1.map Handled.acknowledged =
        [false, true] := by
  decide

end Desk

end Payments
