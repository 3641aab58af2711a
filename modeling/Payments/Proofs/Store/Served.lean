import Payments.Procedure
import Payments.Proofs.Store.Indexes

/-!
# Payments.Proofs.Store.Served -- a store that has served requests

Whatever requests a store has served, with whatever payments and identities, each record is filed
under its own identity (`Store.filed_served`). So no two records have one identity, not even as text
(`Store.Filed.nodup_idText`), and a scan of the records meets each of them once.
-/

namespace Payments.Store

variable {s : Store}

/-- No request takes a record away from its identity. -/
theorem Filed.serve (h : s.Filed) (now : Instant) (fresh : PaymentId) (r : StoreRequest) :
    (r.serve now fresh s).2.Filed := by
  cases r with
  | save p => exact h.save p fresh now
  | delete p deletedBy => exact h.update _ now
  | _ => exact h

theorem Filed.idText {i : PaymentId} {p : Payment} (h : s.Filed) (hp : s.record? i = some p) :
    p.idText = i.text := by
  rw [Payment.idText, h i p hp]

/-- No two records have one identity. -/
theorem Filed.nodup_idText (h : s.Filed) : (s.records.values.map Payment.idText).Nodup := by
  refine nodup_map_values fun i j p q hp hq hid => ?_
  rw [h.idText hp, h.idText hq] at hid
  exact PaymentId.text_injective hid

/-- A request as a store gets it: with the instant at which it is served and with an identity for a
payment that may have to be inserted. -/
structure Turn where
  now : Instant
  fresh : PaymentId
  request : StoreRequest

/-- The store that has served requests one after another, from the beginning. -/
def served (turns : List Turn) : Store :=
  turns.foldl (fun s x => (x.request.serve x.now x.fresh s).2) ∅

theorem filed_served (turns : List Turn) : (served turns).Filed := by
  suffices h : ∀ s : Store, s.Filed →
      (turns.foldl (fun s x => (x.request.serve x.now x.fresh s).2) s).Filed from
    h ∅ indexed_empty.filed
  induction turns with
  | nil => exact fun s hs => hs
  | cons x rest ih => exact fun s hs => ih _ (hs.serve x.now x.fresh x.request)

end Payments.Store
