import QueryLoom.Row
import QueryLoom.Store.Error

/-!
# Dialogues with a store

1. A `Dialogue` is a computation that may ask a store: it is done, or it sends a query and goes on
   with the rows that come back.
2. `Dialogue.run` holds one with a store. The store is any function from its state and a query to
   an answer; the first failure ends the dialogue.
-/

namespace QueryLoom

/-- A computation that may ask a store. -/
inductive Dialogue (α : Type) where
  | done (a : α)
  | ask (query : String) (next : List Row → Dialogue α)

/-- A store whose state is a `σ`: its answer to a query, and the state after it. -/
abbrev Answering (σ : Type) := σ → String → Except StoreError (List Row) × σ

namespace Dialogue

variable {α β σ : Type}

/-- Holds a dialogue with a store. -/
def run (store : Answering σ) (s : σ) : Dialogue α → Except StoreError α × σ
  | .done a => (.ok a, s)
  | .ask query next =>
    match store s query with
    | (.ok rows, s) => (next rows).run store s
    | (.error e, s) => (.error e, s)

/-- A dialogue with a function of its result. -/
def map (f : α → β) : Dialogue α → Dialogue β
  | .done a => .done (f a)
  | .ask query next => .ask query fun rows => (next rows).map f

theorem run_map (store : Answering σ) (s : σ) (f : α → β) (d : Dialogue α) :
    (d.map f).run store s = ((d.run store s).1.map f, (d.run store s).2) := by
  induction d generalizing s with
  | done a => rfl
  | ask query next ih =>
    simp only [map, run]
    split
    · exact ih _ _
    · rfl

end Dialogue

end QueryLoom
