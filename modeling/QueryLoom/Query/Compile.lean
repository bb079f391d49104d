import QueryLoom.Query.Plan
import QueryLoom.Store.Dialogue

/-!
# Compiling requests

1. `Request.compile` carries out the plan of a request in a dialect: it writes the statement, asking
   the store for the values of a pivot column where the plan wants them.
2. `pivotLookup` is the question by itself, with the values for its result.
-/

namespace QueryLoom

open Sql

/-- Carries out a plan. -/
def Plan.compile (d : Dialect) : Plan → Dialogue (Option String)
  | .nothing => .done none
  | .statement s => .done (some (s.render d))
  | .lookup query field finish =>
    .ask (query.render d) fun rows =>
      .done ((finish (pivotValues field rows)).map (·.render d))

/-- The values of a pivot column, asked of a store. -/
def pivotLookup (d : Dialect) (query : Statement) (field : String) : Dialogue (List Value) :=
  .ask (query.render d) fun rows => .done (pivotValues field rows)

theorem Plan.compile_lookup (d : Dialect) (query : Statement) (field : String)
    (finish : List Value → Option Statement) :
    (Plan.lookup query field finish).compile d =
      (pivotLookup d query field).map fun values => (finish values).map (·.render d) := rfl

/-- The SQL text of a request, none if there is nothing to select. -/
def Request.compile (d : Dialect) (r : Request) : Dialogue (Option String) := r.plan.compile d

end QueryLoom
