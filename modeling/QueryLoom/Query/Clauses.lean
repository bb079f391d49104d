import QueryLoom.Query.Scope
import QueryLoom.Query.JoinWalk

/-!
# Clauses on their own

The clauses of a statement as texts, each built by itself from the model, the joins and the filters:

1. `fromClause` is the `FROM` clause, `whereClause` the `WHERE` clause over the conditions that
   `whereConditions` lists.
2. `assembled` puts clauses together, empty ones left out.
-/

namespace QueryLoom

open Sql

/-- The `FROM` clause over the tables of a model, empty without tables. -/
def fromClause (d : Dialect) (m : Model) (joins : List Join) : String :=
  Token.render d (Source.clause (Source.of? m joins))

/-- The conditions that filters set, in their order. -/
def whereConditions (d : Dialect) (fs : List Filter) (m : Model) (catalog : List Listing) :
    List String :=
  (Scope.conditions { model := m, catalog := catalog } fs).map fun c => Token.render d c.tokens

/-- The `WHERE` clause of filters, empty if they set no condition. -/
def whereClause (d : Dialect) (fs : List Filter) (m : Model) (catalog : List Listing) : String :=
  let conditions := whereConditions d fs m catalog
  if conditions.isEmpty then "" else "WHERE " ++ " AND ".intercalate conditions

/-- Clauses with spaces between them, empty ones left out. -/
def assembled (clauses : List String) : String := " ".intercalate (clauses.filter (· ≠ ""))

namespace Sql.Statement

/-- The list of what is selected, as a text. -/
def selectClause (d : Dialect) (s : Statement) : String :=
  "SELECT " ++ ", ".intercalate (s.outputs.map fun o => Token.render d o.tokens)

/-- The `GROUP BY` clause, empty without groups. -/
def groupClause (d : Dialect) (s : Statement) : String :=
  if s.groups.isEmpty then ""
  else "GROUP BY " ++ ", ".intercalate (s.groups.map fun c => Token.render d c.tokens)

end Sql.Statement

end QueryLoom
