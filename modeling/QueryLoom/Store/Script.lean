import QueryLoom.Store.Dialogue

/-!
# Scripted stores

`Script` is a store that gives prepared answers in their order and remembers what it was asked.
After the last answer it gives no rows.
-/

namespace QueryLoom

/-- A store with prepared answers. -/
structure Script where
  answers : List (Except StoreError (List Row)) := []
  /-- The queries received, the last one first. -/
  received : List String := []

namespace Script

/-- Answers a query with the next prepared answer. -/
def answer : Answering Script := fun s query =>
  match s.answers with
  | [] => (.ok [], { s with received := query :: s.received })
  | a :: rest => (a, ⟨rest, query :: s.received⟩)

/-- The queries received, in order. -/
def queries (s : Script) : List String := s.received.reverse

end Script

end QueryLoom
