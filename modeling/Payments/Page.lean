import Payments.Number.Power

/-!
# Payments.Page -- results cut into pages

A long result is handed out in pages of a given size, counted from zero. A request for a page past
the end is answered with an empty page; that includes requests whose first item would have a number
beyond `maxCount`, at which the offset stops growing.
-/

namespace Payments

/-- The greatest number of items that is ever counted. -/
def maxCount : Nat := twoTo 64 - 1

/-- Which page is asked for, and how many items a page has. -/
structure PageRequest where
  page : Nat
  size : Nat
deriving DecidableEq, Repr

namespace PageRequest

/-- A page of at least one item. -/
def of (page size : Nat) : PageRequest :=
  ⟨page, max size 1⟩

/-- Everything on one page. -/
def unpaged : PageRequest :=
  ⟨0, maxCount⟩

/-- The first page of twenty items. -/
def first : PageRequest :=
  of 0 20

/-- The number of items before the page. -/
def offset (r : PageRequest) : Nat :=
  min (r.page * r.size) maxCount

end PageRequest

/-- One page of a result, and how many items the whole result has. -/
structure Page (α : Type) where
  items : List α
  page : Nat
  size : Nat
  total : Nat

namespace Page

/-- Cuts a page out of a result that is in order. -/
def ofSorted {α : Type} (all : List α) (r : PageRequest) : Page α where
  items := (all.drop r.offset).take r.size
  page := r.page
  size := r.size
  total := all.length

/-- The number of pages that the whole result fills. -/
def totalPages {α : Type} (p : Page α) : Nat :=
  (p.total + (max p.size 1 - 1)) / max p.size 1

end Page

end Payments
